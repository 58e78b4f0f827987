import SqlWright.Proofs.Cache.Memory
import SqlWright.Proofs.Dialogue.Simulation
import SqlWright.Proofs.Keyed.Replacement
import Mathlib.Data.List.Induction
import Mathlib.Data.List.Perm.Basic
/-! The store in memory as one list, ordered by use. Whatever is asked of it in whatever order, it
answers like a list whose first entry was used longest ago; so a text that is found is the last one
put under its key, and it is still live. -/
namespace SqlWright.MemoryStore

/-- A call on the store. -/
inductive Call where
  | ask (question : CacheStore.Question)
  | size
  | clear

def Call.Answer : Call → Type
  | .ask question => CacheStore.Answer question
  | .size => Nat
  | .clear => Unit

/-- Calls at moments, which are counted without a bound. -/
abbrev timed : Interface := ⟨Nat × Call, fun question => question.2.Answer⟩

def respondent : Respondent timed MemoryStore where
  answer
    | (now, .ask question), store => store.answer now question
    | (_, .size), store => (store.size, store)
    | (_, .clear), store => ((), store.clear)
  note _ store := store

/-- The keys with what is kept under them, that used longest ago first. -/
abbrev Recency := List (String × MemoryEntry)

namespace Recency

/-- A live entry is found and goes to the end; one that is no longer live is removed. -/
def lookUp (now : Nat) (key : String) (list : Recency) : Option String × Recency :=
  match list.find? (·.1 = key) with
  | none => (none, list)
  | some kept =>
    let others := list.filter (·.1 ≠ key)
    if kept.2.isLive now then (some kept.2.text, others ++ [kept]) else (none, others)

/-- A new entry goes to the end in place of one with its key. What no longer fits is dropped from
the front. -/
def put (capacity now : Nat) (key text : String) (expiry : Option Nat) (list : Recency) : Recency :=
  let list := list.filter (·.1 ≠ key) ++ [(key, ⟨text, expiry.map (now + ·)⟩)]
  list.drop (list.length - capacity)

def respondent (capacity : Nat) : Respondent timed Recency where
  answer
    | (now, .ask (.has key)), list =>
      let (text, list) := list.lookUp now key
      (.ok text.isSome, list)
    | (now, .ask (.get key)), list =>
      let (text, list) := list.lookUp now key
      (.ok text, list)
    | (now, .ask (.set key text expiry)), list => (.ok (), list.put capacity now key text expiry)
    | (_, .size), list => (list.length, list)
    | (_, .clear), _ => ((), [])
  note _ list := list

section Distinct

variable {list : Recency} {key : String} {kept : String × MemoryEntry}

theorem map_filter_key (distinct : (list.map (·.1)).Nodup) :
    (list.filter (·.1 ≠ key)).map (·.1) = (list.map (·.1)).erase key := by
  rw [distinct.erase_eq_filter, List.filter_map]
  congr 1
  refine List.filter_congr fun kept _ => ?_
  rw [Bool.eq_iff_iff]
  simp

theorem filter_key_of_absent (absent : key ∉ list.map (·.1)) :
    list.filter (·.1 ≠ key) = list :=
  List.filter_eq_self.2 fun kept member => by
    simpa using fun own => absent (List.mem_map.2 ⟨kept, member, own⟩)

/-- The entry of a key and the others make up the list. -/
theorem perm_filter_concat (distinct : (list.map (·.1)).Nodup) (member : kept ∈ list)
    (own : kept.1 = key) : list.Perm (list.filter (·.1 ≠ key) ++ [kept]) := by
  have others : list.erase kept = list.filter (·.1 ≠ key) := by
    rw [(List.Nodup.of_map _ distinct).erase_eq_filter]
    refine List.filter_congr fun candidate alsoIn => ?_
    have same : candidate = kept ↔ candidate.1 = key := by
      refine ⟨fun same => same ▸ own, fun same => ?_⟩
      exact List.inj_on_of_nodup_map distinct alsoIn member (same.trans own.symm)
    rw [Bool.eq_iff_iff]
    simp [same]
  rw [← others]
  exact (List.perm_cons_erase member).trans (List.perm_append_singleton ..).symm

theorem nodup_filter_concat (distinct : (list.map (·.1)).Nodup) (own : kept.1 = key) :
    ((list.filter (·.1 ≠ key) ++ [kept]).map (·.1)).Nodup := by
  rw [List.map_append, List.map_singleton, map_filter_key distinct, own]
  refine (distinct.erase key).append (List.nodup_singleton key) ?_
  exact List.disjoint_singleton.2 distinct.not_mem_erase

end Distinct

end Recency

section Listing

variable {now : Nat} {key text : String} {expiry : Option Nat} {list : Recency}
  {entries : List (String × MemoryEntry)} {order : List String} {entry : MemoryEntry}
  {kept : String × MemoryEntry}

/-- Entries and the order of their use, both read off one list. -/
structure Listed (entries : List (String × MemoryEntry)) (order : List String)
    (list : Recency) : Prop where
  perm : entries.Perm list
  order : order = list.map (·.1)
  distinct : (list.map (·.1)).Nodup

namespace Listed

/-- A use moves an entry to the end. -/
theorem touch (listed : Listed entries order list) (member : kept ∈ list) (own : kept.1 = key) :
    Listed entries (touch key order) (list.filter (·.1 ≠ key) ++ [kept]) where
  perm := listed.perm.trans (Recency.perm_filter_concat listed.distinct member own)
  order := by
    have present : key ∈ list.map (·.1) := List.mem_map.2 ⟨kept, member, own⟩
    rw [List.map_append, List.map_singleton, Recency.map_filter_key listed.distinct, own,
      listed.order]
    simp only [MemoryStore.touch, List.contains_iff_mem, present, if_true]
  distinct := Recency.nodup_filter_concat listed.distinct own

theorem remove (listed : Listed entries order list) (key : String) :
    Listed (removeEntry key entries) (order.erase key) (list.filter (·.1 ≠ key)) where
  perm := listed.perm.filter _
  order := by rw [listed.order, Recency.map_filter_key listed.distinct]
  distinct := listed.distinct.sublist (List.filter_sublist.map _)

private theorem insertEntry_perm (distinct : (entries.map (·.1)).Nodup) :
    (insertEntry key entry entries).Perm (removeEntry key entries ++ [(key, entry)]) := by
  induction entries with
  | nil => exact .rfl
  | cons first rest ih =>
    obtain ⟨absent, distinct⟩ := List.nodup_cons.1 distinct
    unfold insertEntry
    split
    · next same =>
      have gone : removeEntry key (first :: rest) = rest := by
        rw [removeEntry, List.filter_cons_of_neg (by simp [same])]
        exact Recency.filter_key_of_absent (same ▸ absent)
      rw [gone]
      exact (List.perm_append_singleton ..).symm
    · next different =>
      have stays : removeEntry key (first :: rest) = first :: removeEntry key rest :=
        List.filter_cons_of_pos (by simp [different])
      rw [stays]
      exact (ih distinct).cons first

/-- A new entry goes to the end, be there one with its key or not. -/
theorem insert (listed : Listed entries order list) (known : Bool)
    (present : known = true ↔ key ∈ list.map (·.1)) :
    Listed (insertEntry key entry entries)
      (if known then MemoryStore.touch key order else order ++ [key])
      (list.filter (·.1 ≠ key) ++ [(key, entry)]) where
  perm := by
    have distinct : (entries.map (·.1)).Nodup := (listed.perm.map _).nodup_iff.2 listed.distinct
    exact (insertEntry_perm distinct).trans ((listed.perm.filter _).append_right _)
  order := by
    rw [List.map_append, List.map_singleton, Recency.map_filter_key listed.distinct, listed.order]
    cases known with
    | true => simp [MemoryStore.touch, present.1 rfl]
    | false =>
      have absent : key ∉ list.map (·.1) := fun member => Bool.noConfusion (present.2 member)
      rw [List.erase_of_not_mem absent]
      rfl
  distinct := Recency.nodup_filter_concat listed.distinct rfl

/-- The entries that no longer fit leave at the front. -/
theorem evictFrom (listed : Listed entries order list) (capacity : Nat) :
    Listed (MemoryStore.evictFrom capacity order entries).1
      (MemoryStore.evictFrom capacity order entries).2 (list.drop (list.length - capacity)) := by
  -- The order begins with the key of the list's first entry, so one round of eviction takes just
  -- that entry off.
  induction list generalizing entries order with
  | nil =>
    obtain ⟨perm, rfl, distinct⟩ := listed
    rw [List.drop_nil]
    exact ⟨perm, rfl, distinct⟩
  | cons oldest rest ih =>
    have long := listed.perm.length_eq
    obtain ⟨perm, rfl, distinct⟩ := listed
    simp only [List.map_cons, MemoryStore.evictFrom]
    split
    · next tooMany =>
      have gone : (oldest :: rest).filter (·.1 ≠ oldest.1) = rest := by
        rw [List.filter_cons_of_neg (by simp)]
        exact Recency.filter_key_of_absent (List.nodup_cons.1 distinct).1
      have one : (oldest :: rest).length - capacity = rest.length - capacity + 1 := by
        simp only [List.length_cons] at long ⊢
        omega
      rw [one, List.drop_succ_cons]
      have left : (removeEntry oldest.1 entries).Perm rest := by
        rw [← gone]
        exact perm.filter _
      exact ih ⟨left, rfl, (List.nodup_cons.1 distinct).2⟩
    · next fits =>
      have none : (oldest :: rest).length - capacity = 0 := by omega
      rw [none]
      exact ⟨perm, rfl, distinct⟩

end Listed

end Listing

section Ordering

variable {room now : Nat} {key text : String} {expiry : Option Nat} {store : MemoryStore}
  {list : Recency}

/-- A store of some capacity that is read off a list which fits it. -/
structure Ordered (room : Nat) (store : MemoryStore) (list : Recency) : Prop where
  capacity : store.capacity = room
  listed : Listed store.entries store.order list
  fits : list.length ≤ room

namespace Ordered

theorem empty (room : Nat) : Ordered room (.empty room) [] :=
  ⟨rfl, ⟨.nil, rfl, List.nodup_nil⟩, Nat.zero_le _⟩

theorem clear (ordered : Ordered room store list) : Ordered room store.clear [] :=
  ⟨ordered.capacity, ⟨.nil, rfl, List.nodup_nil⟩, Nat.zero_le _⟩

theorem entry?_eq (ordered : Ordered room store list) (key : String) :
    store.entry? key = (list.find? (·.1 = key)).map (·.2) := by
  rw [MemoryStore.entry?,
    Keyed.find?_eq_of_perm ordered.listed.distinct ordered.listed.perm]

theorem perm_keys (ordered : Ordered room store list) : store.order.Perm store.keys := by
  rw [ordered.listed.order]
  exact (ordered.listed.perm.map _).symm

theorem read (ordered : Ordered room store list) (now : Nat) (key : String) :
    (store.read now key).1 = (list.lookUp now key).1 ∧
      Ordered room (store.read now key).2 (list.lookUp now key).2 := by
  unfold MemoryStore.read Recency.lookUp
  rw [ordered.entry?_eq]
  cases found : list.find? (·.1 = key) with
  | none => exact ⟨rfl, ordered⟩
  | some kept =>
    obtain ⟨member, own⟩ := (Keyed.find?_eq_some_iff ordered.listed.distinct).1 found
    have used := ordered.listed.touch member own
    have fewer := ordered.listed.remove key
    have fits := ordered.fits
    simp only [Option.map_some]
    split
    · refine ⟨rfl, ordered.capacity, used, ?_⟩
      rwa [← used.perm.length_eq, ordered.listed.perm.length_eq]
    · exact ⟨rfl, ordered.capacity, fewer, Nat.le_trans (List.length_filter_le ..) fits⟩

private theorem isSome_entry? (ordered : Ordered room store list) :
    (store.entry? key).isSome = true ↔ key ∈ list.map (·.1) := by
  rw [Option.isSome_iff_ne_none, ne_eq, entry_eq_none, not_not, ← ordered.perm_keys.mem_iff,
    ordered.listed.order]

private theorem evict {store : MemoryStore}
    (listed : Listed store.entries store.order list) (capacity : store.capacity = room) :
    Ordered room store.evict (list.drop (list.length - room)) := by
  have fits : (list.drop (list.length - room)).length ≤ room := by
    rw [List.length_drop]
    omega
  unfold MemoryStore.evict
  split
  · next nothing =>
    obtain rfl : room = 0 := capacity.symm.trans nothing
    rw [Nat.sub_zero, List.drop_length]
    exact ⟨capacity, ⟨.nil, rfl, List.nodup_nil⟩, Nat.le_refl _⟩
  · exact ⟨capacity, capacity ▸ listed.evictFrom store.capacity, fits⟩

theorem write (ordered : Ordered room store list) (now : Nat) (key text : String)
    (expiry : Option Nat) :
    Ordered room (store.write now key text expiry) (list.put room now key text expiry) :=
  evict (ordered.listed.insert _ ordered.isSome_entry?) ordered.capacity

end Ordered

theorem respondent_simulates (room : Nat) :
    respondent.Simulates (Recency.respondent room) (Ordered room) where
  answer ordered question := by
    obtain ⟨now, call⟩ := question
    cases call with
    | ask question =>
      cases question with
      | has key =>
        obtain ⟨same, next⟩ := ordered.read now key
        exact ⟨congrArg (fun text : Option String => Except.ok text.isSome) same, next⟩
      | get key =>
        obtain ⟨same, next⟩ := ordered.read now key
        exact ⟨congrArg Except.ok same, next⟩
      | set key text expiry => exact ⟨rfl, ordered.write now key text expiry⟩
    | size => exact ⟨ordered.listed.perm.length_eq, ordered⟩
    | clear => exact ⟨rfl, ordered.clear⟩
  note ordered _ := ordered

end Ordering

section History

variable {room : Nat} {question : Nat × Call} {questions : List (Nat × Call)}
  {key text : String} {entry : MemoryEntry} {list : Recency} {kept : String × MemoryEntry}

/-- Whether a call ends what is kept under a key. -/
def Call.Ends (key : String) : Call → Prop
  | .ask (.set other _ _) => other = key
  | .clear => True
  | _ => False

/-- The last text put under a key, with the first moment at which it is no longer live. -/
def LastPut (questions : List (Nat × Call)) (key : String) (entry : MemoryEntry) : Prop :=
  ∃ earlier moment expiry later,
    questions = earlier ++ (moment, .ask (.set key entry.text expiry)) :: later ∧
      entry.deadline = expiry.map (moment + ·) ∧ ∀ question ∈ later, ¬question.2.Ends key

theorem LastPut.concat (last : LastPut questions key entry) (continues : ¬question.2.Ends key) :
    LastPut (questions ++ [question]) key entry := by
  obtain ⟨earlier, moment, expiry, later, rfl, deadline, since⟩ := last
  refine ⟨earlier, moment, expiry, later ++ [question], by simp, deadline, fun next member => ?_⟩
  rcases List.mem_append.1 member with inLater | isLast
  · exact since next inLater
  · exact List.mem_singleton.1 isLast ▸ continues

theorem lastPut_concat_set (questions : List (Nat × Call)) (now : Nat) (key text : String)
    (expiry : Option Nat) :
    LastPut (questions ++ [(now, .ask (.set key text expiry))]) key
      ⟨text, expiry.map (now + ·)⟩ :=
  ⟨questions, now, expiry, [], rfl, rfl, fun _ member => nomatch member⟩

namespace Recency

theorem mem_of_mem_lookUp {now : Nat} (member : kept ∈ (list.lookUp now key).2) : kept ∈ list := by
  unfold lookUp at member
  split at member
  · exact member
  · next found search =>
    split at member
    · rcases List.mem_append.1 member with other | isFound
      · exact List.mem_of_mem_filter other
      · exact List.mem_singleton.1 isFound ▸ List.mem_of_find?_eq_some search
    · exact List.mem_of_mem_filter member

theorem mem_put {now : Nat} {expiry : Option Nat}
    (member : kept ∈ list.put room now key text expiry) :
    (kept ∈ list ∧ key ≠ kept.1) ∨ kept = (key, ⟨text, expiry.map (now + ·)⟩) := by
  rcases List.mem_append.1 (List.mem_of_mem_drop member) with other | isNew
  · obtain ⟨inList, different⟩ := List.mem_filter.1 other
    exact .inl ⟨inList, Ne.symm (of_decide_eq_true different)⟩
  · exact .inr (List.mem_singleton.1 isNew)

/-- One call: what is kept after it was the last under its key before, or is what it puts. -/
theorem lastPut_answer (known : ∀ kept ∈ list, LastPut questions kept.1 kept.2)
    (member : kept ∈ ((respondent room).answer question list).2) :
    LastPut (questions ++ [question]) kept.1 kept.2 := by
  obtain ⟨now, call⟩ := question
  cases call with
  | ask asked =>
    cases asked with
    | has key => exact (known kept (mem_of_mem_lookUp member)).concat id
    | get key => exact (known kept (mem_of_mem_lookUp member)).concat id
    | set key text expiry =>
      rcases mem_put member with ⟨inList, different⟩ | rfl
      · exact (known kept inList).concat different
      · exact lastPut_concat_set questions now key text expiry
  | size => exact (known kept member).concat id
  | clear => cases member

/-- Whatever was called, each entry is the last one put under its key. -/
theorem lastPut_after (room : Nat) (questions : List (Nat × Call)) :
    ∀ kept ∈ (respondent room).after questions [], LastPut questions kept.1 kept.2 := by
  -- By the last call: whether an entry is still the last put under its key is settled behind it.
  induction questions using List.reverseRecOn with
  | nil => exact fun _ member => nomatch member
  | append_singleton questions question ih =>
    rw [Respondent.after_concat]
    exact fun kept member => lastPut_answer ih member

theorem exists_of_lookUp {now : Nat} (found : (list.lookUp now key).1 = some text) :
    ∃ entry, (key, entry) ∈ list ∧ entry.text = text ∧ entry.isLive now = true := by
  unfold lookUp at found
  split at found
  · cases found
  · next kept search =>
    split at found
    · next live =>
      obtain rfl : kept.1 = key := by simpa using List.find?_some search
      exact ⟨kept.2, List.mem_of_find?_eq_some search, Option.some.inj found, live⟩
    · cases found

end Recency

end History

/-- Calls in any order and at any moments are answered as by the list ordered by use. The order
holds each key once and is that of the list, the entries are those of the list and fit, and a text
that is then found is the last one put under its key and still live. Moments are counted without a
bound, so a lifetime never leads beyond them. -/
theorem calls_follow_recency (capacity : Nat) (questions : List (Nat × Call)) :
    let store := respondent.after questions (.empty capacity)
    let list := (Recency.respondent capacity).after questions []
    respondent.replies questions (.empty capacity) =
        (Recency.respondent capacity).replies questions [] ∧
      store.order.Nodup ∧ store.order.Perm store.keys ∧ store.size ≤ capacity ∧
      store.order = list.map (·.1) ∧ store.entries.Perm list ∧
      (∀ key, store.entry? key = (list.find? (·.1 = key)).map (·.2)) ∧
      ∀ now key text, (store.read now key).1 = some text →
        ∃ entry, LastPut questions key entry ∧ entry.text = text ∧ entry.isLive now = true := by
  intro store list
  have start := Ordered.empty capacity
  have simulates := respondent_simulates capacity
  have ordered : Ordered capacity store list := simulates.after start questions
  have fits : store.size ≤ capacity :=
    Nat.le_trans (Nat.le_of_eq ordered.listed.perm.length_eq) ordered.fits
  refine ⟨simulates.replies start questions, ?_, ordered.perm_keys, fits, ordered.listed.order,
    ordered.listed.perm, ordered.entry?_eq, fun now key text found => ?_⟩
  · exact ordered.listed.order ▸ ordered.listed.distinct
  · rw [(ordered.read now key).1] at found
    obtain ⟨entry, member, same, live⟩ := Recency.exists_of_lookUp found
    exact ⟨entry, Recency.lastPut_after capacity questions _ member, same, live⟩

end SqlWright.MemoryStore
