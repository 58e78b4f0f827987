import SqlWright.Proofs.Cache.Recency
import Mathlib.Data.List.Dedup
import Mathlib.Data.List.DropRight
/-! What the store in memory retains while nothing expires, told from the calls alone: the keys that
were used last, as many as fit. So whether a key is found depends on the number of other keys that
were used since its own last use, and on nothing else. -/
namespace SqlWright.MemoryStore

section Uses

variable {capacity : Nat} {key : String} {uses : List String}

/-- The keys used last, as many as fit, in the order of their last uses. -/
def recent (capacity : Nat) (uses : List String) : List String := uses.dedup.rtake capacity

/-- The other keys that were used since the last use of a key, each once. -/
def rivals (key : String) (uses : List String) : List String :=
  (uses.rtakeWhile (· ≠ key)).dedup

theorem dedup_concat (uses : List String) (key : String) :
    (uses ++ [key]).dedup = uses.dedup.erase key ++ [key] := by
  induction uses with
  | nil => simp
  | cons first rest ih =>
    by_cases again : first ∈ rest
    · rw [List.cons_append, List.dedup_cons_of_mem (List.mem_append_left _ again), ih,
        List.dedup_cons_of_mem again]
    · rw [List.cons_append, List.dedup_cons_of_notMem again]
      by_cases same : first = key
      · subst same
        have absent : first ∉ rest.dedup := mt List.mem_dedup.1 again
        rw [List.dedup_cons_of_mem (List.mem_append_right _ List.mem_cons_self), ih,
          List.erase_of_not_mem absent, List.erase_cons_head]
      · have fresh : first ∉ rest ++ [key] := by simp [again, same]
        rw [List.dedup_cons_of_notMem fresh, ih, List.erase_cons_tail (by simp [same]),
          List.cons_append]

/-- Behind a key, the uses without repeats end in its rivals. -/
theorem exists_dedup_eq (used : key ∈ uses) :
    ∃ front, uses.dedup = front ++ key :: rivals key uses := by
  obtain ⟨after, before, reversed, absent⟩ := List.eq_append_cons_of_mem (List.mem_reverse.2 used)
  have split : uses = before.reverse ++ key :: after.reverse := by
    simpa using congrArg List.reverse reversed
  have since : uses.rtakeWhile (· ≠ key) = after.reverse := by
    have others : ∀ other ∈ after, decide (other ≠ key) = true :=
      fun other member => decide_eq_true (ne_of_mem_of_not_mem member absent)
    rw [List.rtakeWhile, reversed, List.takeWhile_append_of_pos others]
    simp
  have fresh : key ∉ after.reverse := by simpa using absent
  obtain ⟨front, spelled⟩ := List.suffix_union_right before.reverse (key :: after.reverse).dedup
  refine ⟨front, ?_⟩
  rw [rivals, since, ← List.dedup_cons_of_notMem fresh, spelled, ← List.dedup_append, ← split]

theorem rtake_append (first second : List String) (count : Nat) :
    (first ++ second).rtake count =
      first.rtake (count - second.length) ++ second.rtake count := by
  have front : first.drop (first.length + second.length - count) =
      first.drop (first.length - (count - second.length)) := by
    rcases Nat.le_total count second.length with few | many
    · rw [List.drop_of_length_le (by omega), List.drop_of_length_le (by omega)]
    · have same : first.length + second.length - count =
          first.length - (count - second.length) := by omega
      rw [same]
  have back : first.length + second.length - count - first.length = second.length - count := by
    omega
  rw [List.rtake, List.length_append, List.drop_append, front, back]
  rfl

/-- A key is among those used last if its rivals leave room for it. -/
theorem mem_recent_iff :
    key ∈ recent capacity uses ↔ key ∈ uses ∧ (rivals key uses).length < capacity := by
  constructor
  · intro member
    have used : key ∈ uses := List.mem_dedup.1 (List.mem_of_mem_drop member)
    refine ⟨used, ?_⟩
    obtain ⟨front, spelled⟩ := exists_dedup_eq used
    have distinct : (front ++ key :: rivals key uses).Nodup := spelled ▸ uses.nodup_dedup
    have absent : key ∉ rivals key uses := (List.nodup_cons.1 distinct.of_append_right).1
    by_contra crowded
    -- The rivals alone fill the room, so what is taken from the end lies within them.
    have none : capacity - (rivals key uses).length = 0 := by omega
    rw [recent, spelled, List.append_cons, rtake_append, none, List.rtake_zero] at member
    exact absent (List.mem_of_mem_drop member)
  · rintro ⟨used, room⟩
    obtain ⟨front, spelled⟩ := exists_dedup_eq used
    have all : (key :: rivals key uses).length - capacity = 0 := by
      rw [List.length_cons]
      omega
    rw [recent, spelled, rtake_append]
    refine List.mem_append_right _ ?_
    rw [List.rtake, all]
    exact List.mem_cons_self

private theorem exists_dedup_eq_append_recent (capacity : Nat) (uses : List String) :
    ∃ front, uses.dedup = front ++ recent capacity uses ∧
      (front = [] ∨ (recent capacity uses).length = capacity) := by
  refine ⟨uses.dedup.take (uses.dedup.length - capacity), (List.take_append_drop ..).symm, ?_⟩
  rcases Nat.le_total uses.dedup.length capacity with few | many
  · exact .inl (by rw [Nat.sub_eq_zero_of_le few, List.take_zero])
  · refine .inr ?_
    rw [recent, List.rtake, List.length_drop]
    omega

/-- One more use moves its key to the end, and what no longer fits leaves at the front. -/
theorem recent_concat (uses : List String) (key : String) :
    recent capacity (uses ++ [key]) =
      ((recent capacity uses).erase key ++ [key]).rtake capacity := by
  obtain ⟨front, spelled, full⟩ := exists_dedup_eq_append_recent capacity uses
  have erased : uses.dedup.erase key = front.erase key ++ (recent capacity uses).erase key := by
    have distinct : (front ++ recent capacity uses).Nodup := spelled ▸ uses.nodup_dedup
    rw [spelled, List.erase_append]
    split
    · next early =>
      have late : key ∉ recent capacity uses := (List.disjoint_of_nodup_append distinct) early
      rw [List.erase_of_not_mem late]
    · next late => rw [List.erase_of_not_mem late]
  have gone : (front.erase key).rtake
      (capacity - ((recent capacity uses).erase key ++ [key]).length) = [] := by
    rcases full with rfl | full
    · simp
    · have shorter := List.le_length_erase (a := key) (l := recent capacity uses)
      have none : capacity - ((recent capacity uses).erase key ++ [key]).length = 0 := by
        rw [List.length_append, List.length_singleton]
        omega
      rw [none, List.rtake_zero]
  rw [recent, dedup_concat, erased, List.append_assoc, rtake_append, gone, List.nil_append]

/-- The use of a key that is among those used last makes nothing leave. -/
theorem recent_concat_of_mem (member : key ∈ recent capacity uses) :
    recent capacity (uses ++ [key]) = (recent capacity uses).erase key ++ [key] := by
  have fits : (recent capacity uses).length ≤ capacity := by
    rw [recent, List.rtake, List.length_drop]
    omega
  have same : ((recent capacity uses).erase key ++ [key]).length =
      (recent capacity uses).length := by
    have some := List.length_pos_of_mem member
    rw [List.length_append, List.length_erase_of_mem member, List.length_singleton]
    omega
  rw [recent_concat, List.rtake, same, Nat.sub_eq_zero_of_le fits, List.drop_zero]

end Uses

section Runs

variable {capacity now : Nat} {key text : String} {uses : List String} {list : Recency}
  {store : MemoryStore} {questions : List (Nat × Call)}

/-- The key that an answered call puts or finds. A miss uses none. -/
def Call.used : (call : Call) → call.Answer → Option String
  | .ask (.set key _ _), _ => some key
  | .ask (.has key), .ok true => some key
  | .ask (.get key), .ok (some _) => some key
  | _, _ => none

/-- The keys that a run puts and finds, in order. -/
def usedKeys (replies : List (Reply timed)) : List String :=
  replies.filterMap fun reply => reply.1.2.used reply.2

theorem usedKeys_cons (reply : Reply timed) (rest : List (Reply timed)) :
    usedKeys (reply :: rest) = (reply.1.2.used reply.2).toList ++ usedKeys rest := by
  cases used : reply.1.2.used reply.2 <;> simp [usedKeys, used]

/-- The key that a call asks for. -/
def Call.sought : Call → Option String
  | .ask (.has key) | .ask (.get key) => some key
  | _ => none

/-- In a run from a store, nothing that is asked for has expired. -/
def unexpired : List (Nat × Call) → MemoryStore → Bool
  | [], _ => true
  | (now, call) :: rest, store =>
    (call.sought.bind store.entry?).all (·.isLive now) &&
      unexpired rest (respondent.answer (now, call) store).2

namespace Recency

theorem keys_lookUp (distinct : (list.map (·.1)).Nodup)
    (kept : list.map (·.1) = recent capacity uses)
    (live : ∀ found ∈ list, found.1 = key → found.2.isLive now = true) :
    (list.lookUp now key).2.map (·.1) =
      recent capacity (uses ++ if (list.lookUp now key).1.isSome then [key] else []) := by
  unfold lookUp
  cases search : list.find? (·.1 = key) with
  | none => simpa using kept
  | some found =>
    obtain ⟨member, own⟩ := (Keyed.find?_eq_some_iff distinct).1 search
    have present : key ∈ recent capacity uses := kept ▸ List.mem_map.2 ⟨found, member, own⟩
    simp only [live found member own, if_true, Option.isSome_some]
    rw [List.map_append, List.map_singleton, map_filter_key distinct, own, kept,
      recent_concat_of_mem present]

theorem keys_put (distinct : (list.map (·.1)).Nodup)
    (kept : list.map (·.1) = recent capacity uses) (expiry : Option Nat) :
    (list.put capacity now key text expiry).map (·.1) = recent capacity (uses ++ [key]) := by
  have keys (entry : MemoryEntry) : (list.filter (·.1 ≠ key) ++ [(key, entry)]).map (·.1) =
      (recent capacity uses).erase key ++ [key] := by
    rw [List.map_append, List.map_singleton, map_filter_key distinct, kept]
  rw [recent_concat, ← keys ⟨text, expiry.map (now + ·)⟩, List.rtake, List.length_map,
    ← List.map_drop]
  rfl

/-- One call: if the keys in the list were the last used before it, they are after it. -/
theorem keys_answer (distinct : (list.map (·.1)).Nodup)
    (kept : list.map (·.1) = recent capacity uses) {call : Call} (lasting : call ≠ .clear)
    (live : ∀ found ∈ list, call.sought = some found.1 → found.2.isLive now = true) :
    let (answer, after) := (Recency.respondent capacity).answer (now, call) list
    after.map (·.1) = recent capacity (uses ++ (call.used answer).toList) := by
  cases call with
  | ask question =>
    cases question with
    | has key =>
      have looked := keys_lookUp distinct kept fun found member own =>
        live found member (congrArg some own.symm)
      cases answer : (list.lookUp now key).1 <;>
        simpa [Recency.respondent, Call.used, answer] using looked
    | get key =>
      have looked := keys_lookUp distinct kept fun found member own =>
        live found member (congrArg some own.symm)
      cases answer : (list.lookUp now key).1 <;>
        simpa [Recency.respondent, Call.used, answer] using looked
    | set key text expiry => exact keys_put distinct kept expiry
  | size => simpa [Recency.respondent, Call.used] using kept
  | clear => exact absurd rfl lasting

end Recency

private theorem Ordered.live_of_sought {call : Call} (ordered : Ordered capacity store list)
    (timely : (call.sought.bind store.entry?).all (·.isLive now) = true) :
    ∀ found ∈ list, call.sought = some found.1 → found.2.isLive now = true := by
  intro found member sought
  have search := (Keyed.find?_eq_some_iff ordered.listed.distinct).2 ⟨member, rfl⟩
  simpa [sought, ordered.entry?_eq, search] using timely

/-- A run: the keys that are kept after it were used last in it, or before. -/
theorem Ordered.keys_after (ordered : Ordered capacity store list)
    (kept : list.map (·.1) = recent capacity uses)
    (lasting : ∀ question ∈ questions, question.2 ≠ .clear)
    (timely : unexpired questions store = true) :
    ((Recency.respondent capacity).after questions list).map (·.1) =
      recent capacity (uses ++ usedKeys (respondent.replies questions store)) := by
  induction questions generalizing store list uses with
  | nil => simpa [Respondent.after, Respondent.replies, usedKeys] using kept
  | cons question rest ih =>
    obtain ⟨now, call⟩ := question
    obtain ⟨lastingCall, lastingRest⟩ := List.forall_mem_cons.1 lasting
    obtain ⟨timelyCall, timelyRest⟩ := Bool.and_eq_true_iff.1 timely
    obtain ⟨same, next⟩ := (respondent_simulates capacity).answer ordered (now, call)
    have step := Recency.keys_answer ordered.listed.distinct kept lastingCall
      (ordered.live_of_sought timelyCall)
    have run := ih next step lastingRest timelyRest
    rw [← same, List.append_assoc] at run
    rw [Respondent.replies, usedKeys_cons]
    exact run

/-- The store keeps the keys that were used last, as many as fit. -/
theorem order_eq_recent (capacity : Nat) (lasting : ∀ question ∈ questions, question.2 ≠ .clear)
    (timely : unexpired questions (.empty capacity) = true) :
    (respondent.after questions (.empty capacity)).order =
      recent capacity (usedKeys (respondent.replies questions (.empty capacity))) := by
  have start := Ordered.empty capacity
  have kept : ([] : Recency).map (·.1) = recent capacity [] := by simp [recent]
  rw [((respondent_simulates capacity).after start questions).listed.order]
  exact start.keys_after kept lasting timely

theorem unexpired_append {others : List (Nat × Call)} :
    unexpired (questions ++ others) store = true ↔
      unexpired questions store = true ∧
        unexpired others (respondent.after questions store) = true := by
  induction questions generalizing store with
  | nil => simp [unexpired, Respondent.after]
  | cons question rest ih =>
    rw [List.cons_append, unexpired, unexpired, Bool.and_eq_true_iff, Bool.and_eq_true_iff, ih,
      and_assoc]
    rfl

theorem mem_usedKeys_of_set {moment : Nat} {expiry : Option Nat}
    (member : (moment, .ask (.set key text expiry)) ∈ questions) :
    key ∈ usedKeys (respondent.replies questions store) := by
  induction questions generalizing store with
  | nil => cases member
  | cons question rest ih =>
    rw [Respondent.replies, usedKeys_cons]
    rcases List.mem_cons.1 member with rfl | later
    · exact List.mem_append_left _ List.mem_cons_self
    · exact List.mem_append_right _ (ih later)

/-- Where nothing that is kept under a key has expired, it is found if something is kept. -/
theorem exists_read_iff (live : (store.entry? key).all (·.isLive now) = true) :
    (∃ text, (store.read now key).1 = some text) ↔ key ∈ store.keys := by
  rw [← not_iff_not, ← entry_eq_none]
  cases held : store.entry? key with
  | none => simp [read_absent (entry_eq_none.1 held)]
  | some entry =>
    rw [held] at live
    simp [read_live held live]

end Runs

/-- As long as nothing expires and the store is not cleared, a text is got under a key if one was
set there and the other keys set or found since its own last use are fewer than the capacity. It is
the last one that was set. Moments are counted without a bound, so a lifetime never leads beyond
them. -/
theorem get_iff_used_recently (capacity : Nat) {questions : List (Nat × Call)} {now : Nat}
    {key : String} (lasting : ∀ question ∈ questions, question.2 ≠ .clear)
    (timely : unexpired (questions ++ [(now, .ask (.get key))]) (.empty capacity) = true) :
    let uses := usedKeys (respondent.replies questions (.empty capacity))
    let answer : Except Failure (Option String) :=
      (respondent.answer (now, .ask (.get key)) (respondent.after questions (.empty capacity))).1
    ((∃ text, answer = .ok (some text)) ↔
        (∃ moment text expiry, (moment, .ask (.set key text expiry)) ∈ questions) ∧
          (rivals key uses).length < capacity) ∧
      ∀ text, answer = .ok (some text) →
        ∃ entry, LastPut questions key entry ∧ entry.text = text := by
  intro uses answer
  obtain ⟨timelyRun, timelyGet⟩ := unexpired_append.1 timely
  let store := respondent.after questions (.empty capacity)
  have live : (store.entry? key).all (·.isLive now) = true := (Bool.and_eq_true_iff.1 timelyGet).1
  have ordered : Ordered capacity store ((Recency.respondent capacity).after questions []) :=
    (respondent_simulates capacity).after (.empty capacity) questions
  have found_iff (text : String) :
      answer = .ok (some text) ↔ (store.read now key).1 = some text :=
    ⟨Except.ok.inj, congrArg Except.ok⟩
  have last (text : String) (found : answer = .ok (some text)) :
      ∃ entry, LastPut questions key entry ∧ entry.text = text := by
    rw [found_iff, (ordered.read now key).1] at found
    obtain ⟨entry, member, same, -⟩ := Recency.exists_of_lookUp found
    exact ⟨entry, Recency.lastPut_after capacity questions _ member, same⟩
  have kept_iff : (∃ text, answer = .ok (some text)) ↔
      key ∈ uses ∧ (rivals key uses).length < capacity := by
    rw [← mem_recent_iff, ← order_eq_recent capacity lasting timelyRun, ordered.perm_keys.mem_iff,
      ← exists_read_iff live]
    simp only [found_iff]
  refine ⟨kept_iff.trans (and_congr_left fun room => ⟨fun used => ?_, ?_⟩), last⟩
  · obtain ⟨text, found⟩ := kept_iff.2 ⟨used, room⟩
    obtain ⟨entry, ⟨earlier, moment, expiry, later, rfl, -⟩, -⟩ := last text found
    exact ⟨moment, entry.text, expiry, List.mem_append_right _ List.mem_cons_self⟩
  · rintro ⟨moment, text, expiry, member⟩
    exact mem_usedKeys_of_set member

/-- A key that was found in between outlives one that was set later, whose miss makes no
difference. -/
theorem get_iff_used_recently_of_found :
    let questions : List (Nat × Call) :=
      [(0, .ask (.set "a" "1" none)), (1, .ask (.set "b" "2" (some 9))), (2, .ask (.has "a")),
        (3, .ask (.set "c" "3" none)), (4, .ask (.get "b"))]
    let uses := usedKeys (respondent.replies questions (.empty 2))
    (∀ question ∈ questions, question.2 ≠ .clear) ∧
      unexpired (questions ++ [(5, .ask (.get "a"))]) (.empty 2) = true ∧
      uses = ["a", "b", "a", "c"] ∧ rivals "a" uses = ["c"] ∧
      ∃ text, (respondent.answer (5, .ask (.get "a")) (respondent.after questions (.empty 2))).1 =
        .ok (some text) := by
  intro questions uses
  have lasting : ∀ question ∈ questions, question.2 ≠ .clear := by simp [questions]
  have timely : unexpired (questions ++ [(5, .ask (.get "a"))]) (.empty 2) = true := by decide
  have spelled : uses = ["a", "b", "a", "c"] := by decide
  have alone : rivals "a" uses = ["c"] := by decide
  refine ⟨lasting, timely, spelled, alone, (get_iff_used_recently 2 lasting timely).1.2 ⟨?_, ?_⟩⟩
  · exact ⟨0, "1", none, List.mem_cons_self⟩
  · show (rivals "a" uses).length < 2
    rw [alone]
    decide

end SqlWright.MemoryStore
