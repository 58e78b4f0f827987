import SqlWright.Cache.Memory
import Mathlib.Data.List.Nodup
/-! What the store in memory holds after it was read or written: a text is only found under the
key it was put under, and below capacity nothing is dropped. -/
namespace SqlWright.MemoryStore

variable {store : MemoryStore} {now : Nat} {key text : String} {expiry : Option Nat}
  {entry : MemoryEntry} {kept : String × MemoryEntry}

def keys (store : MemoryStore) : List String := store.entries.map (·.1)

section Entries

theorem mem_of_entry (found : store.entry? key = some entry) : (key, entry) ∈ store.entries := by
  obtain ⟨⟨other, value⟩, search, rfl⟩ := Option.map_eq_some_iff.1 found
  obtain rfl : other = key := by simpa using List.find?_some search
  exact List.mem_of_find?_eq_some search

theorem entry_eq_none : store.entry? key = none ↔ key ∉ store.keys := by
  simp only [MemoryStore.entry?, keys, Option.map_eq_none_iff, List.find?_eq_none, List.mem_map,
    not_exists, not_and, decide_eq_true_eq]

theorem mem_insertEntry {entries : List (String × MemoryEntry)}
    (member : kept ∈ insertEntry key entry entries) : kept = (key, entry) ∨ kept ∈ entries := by
  induction entries with
  | nil => exact .inl (List.mem_singleton.1 member)
  | cons first rest ih =>
    unfold insertEntry at member
    split at member
    · exact (List.mem_cons.1 member).imp id (List.mem_cons_of_mem _)
    · rcases List.mem_cons.1 member with rfl | inRest
      · exact .inr List.mem_cons_self
      · exact (ih inRest).imp id (List.mem_cons_of_mem _)

theorem mem_of_mem_removeEntry {entries : List (String × MemoryEntry)}
    (member : kept ∈ removeEntry key entries) : kept ∈ entries :=
  List.mem_of_mem_filter member

private theorem mem_of_mem_evictFrom {capacity : Nat} {order : List String}
    {entries : List (String × MemoryEntry)}
    (member : kept ∈ (evictFrom capacity order entries).1) : kept ∈ entries := by
  induction order generalizing entries with
  | nil => exact member
  | cons oldest order ih =>
    unfold evictFrom at member
    split at member
    · exact mem_of_mem_removeEntry (ih member)
    · exact member

private theorem mem_of_mem_evict (member : kept ∈ store.evict.entries) : kept ∈ store.entries := by
  unfold evict at member
  split at member
  · cases member
  · exact mem_of_mem_evictFrom member

end Entries

section Contents

/-- Reading adds nothing. -/
theorem mem_of_mem_read (member : kept ∈ (store.read now key).2.entries) :
    kept ∈ store.entries := by
  unfold read at member
  split at member
  · exact member
  · split at member
    · exact member
    · exact mem_of_mem_removeEntry member

/-- What is read is the text of a live entry under the key. -/
theorem exists_of_read (found : (store.read now key).1 = some text) :
    ∃ entry, (key, entry) ∈ store.entries ∧ entry.text = text := by
  unfold read at found
  split at found
  · cases found
  · next entry held =>
    split at found
    · exact ⟨entry, mem_of_entry held, Option.some.inj found⟩
    · cases found

/-- Writing adds the written text under its key and nothing else. -/
theorem mem_of_mem_write (member : kept ∈ (store.write now key text expiry).entries) :
    kept = (key, ⟨text, expiry.map (now + ·)⟩) ∨ kept ∈ store.entries :=
  mem_insertEntry (mem_of_mem_evict member)

end Contents

section Keeping

/-- A live entry is read, and only the order of use changes. -/
theorem read_live (held : store.entry? key = some entry) (live : entry.isLive now = true) :
    store.read now key = (some entry.text, { store with order := touch key store.order }) := by
  simp [read, held, live]

theorem read_absent (absent : key ∉ store.keys) : store.read now key = (none, store) := by
  simp [read, entry_eq_none.2 absent]

private theorem evictFrom_of_fits {capacity : Nat} {order : List String}
    {entries : List (String × MemoryEntry)} (fits : entries.length ≤ capacity) :
    evictFrom capacity order entries = (entries, order) := by
  cases order with
  | nil => rfl
  | cons oldest order => simp [evictFrom, Nat.not_lt.2 fits]

private theorem insertEntry_absent {entries : List (String × MemoryEntry)}
    (absent : key ∉ entries.map (·.1)) :
    insertEntry key entry entries = entries ++ [(key, entry)] := by
  induction entries with
  | nil => rfl
  | cons first rest ih =>
    simp only [List.map_cons, List.mem_cons, not_or] at absent
    simp [insertEntry, Ne.symm absent.1, ih absent.2]

/-- Below capacity a new key is added and nothing is dropped. -/
theorem write_absent (absent : key ∉ store.keys) (room : store.entries.length < store.capacity) :
    store.write now key text expiry = { store with
      entries := store.entries ++ [(key, ⟨text, expiry.map (now + ·)⟩)]
      order := store.order ++ [key] } := by
  have some : store.capacity ≠ 0 := by omega
  have fits : (store.entries ++ [(key, (⟨text, expiry.map (now + ·)⟩ : MemoryEntry))]).length ≤
      store.capacity := by
    simp
    omega
  simp [write, entry_eq_none.2 absent, insertEntry_absent absent, evict, some,
    evictFrom_of_fits fits]

end Keeping

end SqlWright.MemoryStore
