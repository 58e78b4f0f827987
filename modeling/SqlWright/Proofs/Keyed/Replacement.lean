import SqlWright.Keyed
import Mathlib.Data.List.Nodup
/-! How putting an item under a key acts on a keyed list: on what is in it, on filters and
maps of it, on its names, and on the order of two such steps. Where no name stands twice, looking
one up finds its one entry. -/
namespace SqlWright.Keyed

variable {Item Key : Type} [DecidableEq Key] {keyOf : Item → Option Key} {key other : Key}
variable {item second entry : Item} {items : List Item}

theorem putAt_absent (absent : ∀ entry ∈ items, keyOf entry ≠ some key) :
    putAt keyOf key item items = items ++ [item] := by
  induction items with
  | nil => rfl
  | cons first rest ih =>
    have different := absent first (List.mem_cons_self ..)
    have restAbsent := fun entry member => absent entry (List.mem_cons_of_mem first member)
    simp [putAt, different, ih restAbsent]

theorem self_mem_putAt : item ∈ putAt keyOf key item items := by
  induction items with
  | nil => simp [putAt]
  | cons first rest ih =>
    unfold putAt
    split
    · exact List.mem_cons_self ..
    · exact List.mem_cons_of_mem _ ih

/-- Only items with the key itself can leave the list. -/
theorem mem_putAt_of_ne (member : entry ∈ items) (different : keyOf entry ≠ some key) :
    entry ∈ putAt keyOf key item items := by
  induction items with
  | nil => cases member
  | cons first rest ih =>
    unfold putAt
    rcases List.mem_cons.1 member with same | inRest
    · subst same
      simp [different]
    · split
      · exact List.mem_cons_of_mem _ inRest
      · exact List.mem_cons_of_mem _ (ih inRest)

theorem filter_putAt (keep : Item → Bool) (dropped : keep item = false)
    (keyDropped : ∀ entry, keyOf entry = some key → keep entry = false) :
    (putAt keyOf key item items).filter keep = items.filter keep := by
  induction items with
  | nil => simp [putAt, dropped]
  | cons first rest ih =>
    unfold putAt
    split
    · next same => simp [dropped, keyDropped first same]
    · simp [List.filter_cons, ih]

theorem map_putAt (change : Item → Item) (keeps : ∀ entry, keyOf (change entry) = keyOf entry) :
    (putAt keyOf key item items).map change = putAt keyOf key (change item) (items.map change) := by
  induction items with
  | nil => rfl
  | cons first rest ih =>
    simp only [putAt, List.map_cons, keeps]
    split
    · rfl
    · simp [ih]

/-- The second of two items under one key takes the place of the first. -/
theorem putAt_putAt_same (keyed : keyOf item = some key) :
    putAt keyOf key second (putAt keyOf key item items) = putAt keyOf key second items := by
  induction items with
  | nil => simp [putAt, keyed]
  | cons first rest ih =>
    by_cases same : keyOf first = some key
    · simp [putAt, same, keyed]
    · simp [putAt, same, ih]

/-- Replacing an item that is there commutes with putting one under another key. -/
theorem putAt_comm (keyed : keyOf item = some key) (otherKeyed : keyOf second = some other)
    (different : key ≠ other) (present : ∃ entry ∈ items, keyOf entry = some key) :
    putAt keyOf key item (putAt keyOf other second items) =
      putAt keyOf other second (putAt keyOf key item items) := by
  induction items with
  | nil =>
    obtain ⟨_, member, _⟩ := present
    cases member
  | cons first rest ih =>
    by_cases same : keyOf first = some key
    · simp [putAt, same, keyed, different]
    · have restPresent : ∃ entry ∈ rest, keyOf entry = some key := by
        obtain ⟨entry, member, entryKey⟩ := present
        rcases List.mem_cons.1 member with isFirst | inRest
        · exact absurd (isFirst ▸ entryKey) same
        · exact ⟨entry, inRest, entryKey⟩
      by_cases otherSame : keyOf first = some other
      · simp [putAt, otherSame, otherKeyed, Ne.symm different]
      · simp [putAt, same, otherSame, ih restPresent]

/-- No two items have one key. -/
def Distinct (keyOf : Item → Option Key) (items : List Item) : Prop :=
  (items.filterMap keyOf).Nodup

/-- A new key comes to the end; one that is there keeps its place. -/
theorem filterMap_putAt (keyed : keyOf item = some key) :
    (putAt keyOf key item items).filterMap keyOf =
      if key ∈ items.filterMap keyOf then items.filterMap keyOf
      else items.filterMap keyOf ++ [key] := by
  induction items with
  | nil => simp [putAt, keyed]
  | cons first rest ih =>
    by_cases same : keyOf first = some key
    · simp [putAt, same, keyed]
    · cases firstKey : keyOf first with
      | none => simp [putAt, firstKey, ih]
      | some other =>
        have different : key ≠ other := by
          rintro rfl
          exact same firstKey
        simp only [putAt, firstKey, Option.some.injEq, Ne.symm different, if_false,
          List.filterMap_cons, ih, List.mem_cons, different, false_or]
        split <;> rfl

theorem Distinct.put (distinct : Distinct keyOf items) (item : Item) :
    Distinct keyOf (put keyOf items item) := by
  unfold Distinct Keyed.put
  cases keyed : keyOf item with
  | none => simpa [Distinct, keyed] using distinct
  | some key =>
    rw [filterMap_putAt keyed]
    split
    · exact distinct
    · next absent => exact List.nodup_append_comm.mp (List.nodup_cons.mpr ⟨absent, distinct⟩)

theorem Distinct.putAll (distinct : Distinct keyOf items) (additions : List Item) :
    Distinct keyOf (putAll keyOf items additions) := by
  induction additions generalizing items with
  | nil => exact distinct
  | cons item rest ih => exact ih (distinct.put item)

theorem Distinct.merge (distinct : Distinct keyOf items) (additions : List Item) :
    Distinct keyOf (merge keyOf items additions) := by
  unfold Keyed.merge
  split
  · exact List.nodup_nil
  · exact distinct.putAll additions

section Sequences

variable {additions : List Item}

theorem exists_key_put (present : ∃ entry ∈ items, keyOf entry = some key)
    (different : keyOf second ≠ some key) :
    ∃ entry ∈ put keyOf items second, keyOf entry = some key := by
  obtain ⟨entry, member, entryKey⟩ := present
  refine ⟨entry, ?_, entryKey⟩
  unfold put
  cases secondKey : keyOf second with
  | none => exact List.mem_append_left _ member
  | some other =>
    refine mem_putAt_of_ne member ?_
    rwa [entryKey, ← secondKey, ne_comm]

/-- Replacing an item that is there commutes with adding one that does not have its key. -/
theorem putAt_put (keyed : keyOf item = some key)
    (present : ∃ entry ∈ items, keyOf entry = some key) (different : keyOf second ≠ some key) :
    putAt keyOf key item (put keyOf items second) =
      put keyOf (putAt keyOf key item items) second := by
  unfold put
  cases secondKey : keyOf second with
  | some other =>
    have otherKey : key ≠ other := by
      rintro rfl
      exact different secondKey
    exact putAt_comm keyed secondKey otherKey present
  | none =>
    induction items with
    | nil =>
      obtain ⟨_, member, _⟩ := present
      cases member
    | cons first rest ih =>
      by_cases same : keyOf first = some key
      · simp [putAt, same]
      · have restPresent : ∃ entry ∈ rest, keyOf entry = some key := by
          obtain ⟨entry, member, entryKey⟩ := present
          rcases List.mem_cons.1 member with rfl | inRest
          · exact absurd entryKey same
          · exact ⟨entry, inRest, entryKey⟩
        simp [putAt, same, ih restPresent]

theorem putAt_putAll (keyed : keyOf item = some key)
    (present : ∃ entry ∈ items, keyOf entry = some key)
    (absent : key ∉ additions.filterMap keyOf) :
    putAt keyOf key item (putAll keyOf items additions) =
      putAll keyOf (putAt keyOf key item items) additions := by
  induction additions generalizing items with
  | nil => rfl
  | cons first rest ih =>
    have different : keyOf first ≠ some key := by
      intro same
      simp [same] at absent
    have restAbsent : key ∉ rest.filterMap keyOf := by
      intro member
      obtain ⟨entry, inRest, entryKey⟩ := List.mem_filterMap.mp member
      exact absent (List.mem_filterMap.mpr ⟨entry, List.mem_cons_of_mem first inRest, entryKey⟩)
    have step := ih (exists_key_put present different) restAbsent
    rw [putAt_put keyed present different] at step
    simpa [putAll] using step

/-- Adding a list in which an item was put under its key is adding the list, then putting the
item. -/
theorem putAll_putAt (keyed : keyOf item = some key) (distinct : Distinct keyOf additions) :
    putAll keyOf items (putAt keyOf key item additions) =
      putAt keyOf key item (putAll keyOf items additions) := by
  induction additions generalizing items with
  | nil => simp [putAll, putAt, put, keyed]
  | cons first rest ih =>
    by_cases same : keyOf first = some key
    · have restAbsent : key ∉ rest.filterMap keyOf := by
        unfold Distinct at distinct
        rw [List.filterMap_cons_some same] at distinct
        exact (List.nodup_cons.mp distinct).1
      have present : ∃ entry ∈ putAt keyOf key first items, keyOf entry = some key :=
        ⟨first, self_mem_putAt, same⟩
      have step := putAt_putAll keyed present restAbsent
      rw [putAt_putAt_same same] at step
      simpa [putAll, putAt, put, same, keyed] using step.symm
    · have restDistinct : Distinct keyOf rest := by
        unfold Distinct at distinct ⊢
        rw [List.filterMap_cons] at distinct
        split at distinct
        · exact distinct
        · exact (List.nodup_cons.mp distinct).2
      simpa [putAll, putAt, same] using ih restDistinct

end Sequences

section Names

variable {Held : Type} {entries others : List (Key × Held)} {held : Key × Held} {value : Held}

/-- A new name comes to the end; one that is there keeps its place. -/
theorem map_fst_putAt :
    (putAt (fun entry => some entry.1) key (key, value) entries).map (·.1) =
      if key ∈ entries.map (·.1) then entries.map (·.1) else entries.map (·.1) ++ [key] := by
  have named := @filterMap_putAt (Key × Held) Key _ (fun entry => some entry.1) key (key, value)
    entries rfl
  simpa only [List.filterMap_eq_map'] using named

omit [DecidableEq Key] in
theorem distinct_iff_nodup_names :
    Distinct (fun entry => some entry.1) entries ↔ (entries.map (·.1)).Nodup := by
  rw [Distinct, List.filterMap_eq_map']

theorem nodup_map_fst_putAt (distinct : (entries.map (·.1)).Nodup) :
    ((putAt (fun entry => some entry.1) key (key, value) entries).map (·.1)).Nodup :=
  distinct_iff_nodup_names.mp ((distinct_iff_nodup_names.mpr distinct).put (key, value))

theorem find?_eq_some_iff (distinct : (entries.map (·.1)).Nodup) :
    entries.find? (·.1 = key) = some held ↔ held ∈ entries ∧ held.1 = key := by
  constructor
  · intro found
    exact ⟨List.mem_of_find?_eq_some found, by simpa using List.find?_some found⟩
  · rintro ⟨member, own⟩
    cases found : entries.find? (·.1 = key) with
    | none => exact absurd own (by simpa using List.find?_eq_none.1 found held member)
    | some first =>
      have same : first.1 = key := by simpa using List.find?_some found
      exact congrArg some (List.inj_on_of_nodup_map distinct (List.mem_of_find?_eq_some found)
        member (same.trans own.symm))

/-- Where no name stands twice the order of the entries plays no part. -/
theorem find?_eq_of_perm (distinct : (entries.map (·.1)).Nodup) (perm : others.Perm entries) :
    others.find? (·.1 = key) = entries.find? (·.1 = key) := by
  have alsoDistinct : (others.map (·.1)).Nodup := (perm.map _).nodup_iff.2 distinct
  refine Option.ext fun held => ?_
  rw [find?_eq_some_iff distinct, find?_eq_some_iff alsoDistinct, perm.mem_iff]

end Names

end SqlWright.Keyed
