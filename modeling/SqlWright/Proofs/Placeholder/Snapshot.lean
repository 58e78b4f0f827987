import SqlWright.Proofs.Placeholder.Binding
import Mathlib.Data.List.Sort
import Mathlib.Data.String.Basic
/-! A table as a map from names to values. The sorted entries of a table with distinct names hold
this map and nothing else, so the order of binding leaves no trace in them. -/
namespace SqlWright.Table

/-- The value of the first entry with a name. -/
def valueIn (entries : List (String × Value)) (name : String) : Option Value :=
  (entries.find? fun entry => entry.1 = name).map (·.2)

/-- The name-to-value map of a table. -/
def valueOf (table : Table) : String → Option Value := valueIn table.entries

/-- The value of the last entry with a name. -/
def lastValueOf (table : Table) : String → Option Value := valueIn table.entries.reverse

section Looking

variable {entries sorted : List (String × Value)} {entry : String × Value} {name : String}

theorem valueIn_cons : valueIn (entry :: entries) name =
    if entry.1 = name then some entry.2 else valueIn entries name := by
  by_cases same : entry.1 = name <;> simp [valueIn, same]

theorem valueIn_eq_some_iff (distinct : (entries.map (·.1)).Nodup) :
    valueIn entries entry.1 = some entry.2 ↔ entry ∈ entries := by
  rw [valueIn, Option.map_eq_some_iff]
  constructor
  · rintro ⟨found, isFound, same⟩
    obtain ⟨member, own⟩ := (Keyed.find?_eq_some_iff distinct).1 isFound
    exact Prod.ext own same ▸ member
  · intro member
    exact ⟨entry, (Keyed.find?_eq_some_iff distinct).2 ⟨member, rfl⟩, rfl⟩

theorem valueIn_insertSorted : valueIn (insertSorted entry sorted) name =
    if entry.1 = name then some entry.2 else valueIn sorted name := by
  induction sorted with
  | nil => simp [insertSorted, valueIn_cons]
  | cons first rest ih =>
    unfold insertSorted
    by_cases less : entry.1 < first.1
    · rw [if_pos less, valueIn_cons]
    · rw [if_neg less]
      by_cases same : entry.1 = first.1
      · rw [if_pos same, valueIn_cons, valueIn_cons, same]
        split_ifs <;> rfl
      · rw [if_neg same, valueIn_cons, valueIn_cons, ih]
        split_ifs with isFirst isEntry
        · exact absurd (isEntry.trans isFirst.symm) same
        · rfl
        · rfl
        · rfl

theorem valueIn_append {others : List (String × Value)} :
    valueIn (entries ++ others) name = (valueIn entries name).or (valueIn others name) := by
  simp [valueIn, List.find?_append, Option.map_or]

/-- Where no name stands twice the order of the entries plays no part. -/
theorem valueIn_eq_of_perm {others : List (String × Value)} (permuted : entries.Perm others)
    (distinct : (entries.map (·.1)).Nodup) : valueIn entries = valueIn others := by
  funext name
  rw [valueIn, valueIn, Keyed.find?_eq_of_perm distinct permuted.symm]

/-- Of several entries with a name the one that is inserted last stays. -/
private theorem valueIn_foldl :
    valueIn (entries.foldl (fun sorted entry => insertSorted entry sorted) sorted) name =
      (valueIn entries.reverse name).or (valueIn sorted name) := by
  induction entries generalizing sorted with
  | nil => rfl
  | cons first rest ih =>
    rw [List.foldl_cons, ih, valueIn_insertSorted, List.reverse_cons, valueIn_append, valueIn_cons]
    split <;> cases valueIn rest.reverse name <;> rfl

end Looking

/-- Entries in strictly ascending order of their names. -/
def Ascending (entries : List (String × Value)) : Prop := entries.Pairwise (·.1 < ·.1)

section Sorting

variable {table other : Table} {entries : List (String × Value)} {entry : String × Value}

private theorem mem_insertSorted {member : String × Value}
    (inserted : member ∈ insertSorted entry entries) : member = entry ∨ member ∈ entries := by
  induction entries with
  | nil => exact .inl (List.mem_singleton.1 inserted)
  | cons first rest ih =>
    unfold insertSorted at inserted
    split_ifs at inserted with less same
    · exact List.mem_cons.1 inserted
    · exact (List.mem_cons.1 inserted).imp id (List.mem_cons_of_mem _)
    · rcases List.mem_cons.1 inserted with rfl | inRest
      · exact .inr List.mem_cons_self
      · exact (ih inRest).imp id (List.mem_cons_of_mem _)

theorem Ascending.insertSorted (ascending : Ascending entries) :
    Ascending (insertSorted entry entries) := by
  induction entries with
  | nil => exact List.pairwise_singleton ..
  | cons first rest ih =>
    obtain ⟨above, restAscending⟩ := List.pairwise_cons.1 ascending
    unfold Table.insertSorted
    split_ifs with less same
    · refine List.pairwise_cons.2 ⟨fun later member => ?_, ascending⟩
      rcases List.mem_cons.1 member with rfl | inRest
      · exact less
      · exact less.trans (above later inRest)
    · exact List.pairwise_cons.2 ⟨fun later member => same ▸ above later member, restAscending⟩
    · refine List.pairwise_cons.2 ⟨fun later member => ?_, ih restAscending⟩
      rcases mem_insertSorted member with rfl | inRest
      · exact lt_of_le_of_ne (not_lt.1 less) (Ne.symm same)
      · exact above later inRest

theorem ascending_snapshot (table : Table) : Ascending table.snapshot := by
  unfold snapshot
  suffices kept : ∀ entries sorted : List (String × Value), Ascending sorted →
      Ascending (entries.foldl (fun sorted entry => Table.insertSorted entry sorted) sorted) from
    kept table.entries [] List.Pairwise.nil
  intro entries
  induction entries with
  | nil => exact fun _ ascending => ascending
  | cons first rest ih => exact fun _ ascending => ih _ ascending.insertSorted

theorem Ascending.nodup (ascending : Ascending entries) : (entries.map (·.1)).Nodup :=
  List.pairwise_map.2 (ascending.imp fun less => less.ne)

/-- Ascending entries with one and the same map are the same. -/
theorem Ascending.eq_of_valueIn_eq {others : List (String × Value)} (ascending : Ascending entries)
    (othersAscending : Ascending others) (same : valueIn entries = valueIn others) :
    entries = others := by
  have permuted : entries.Perm others := by
    refine (List.perm_ext_iff_of_nodup ascending.nodup.of_map othersAscending.nodup.of_map).2 ?_
    intro entry
    rw [← valueIn_eq_some_iff ascending.nodup, ← valueIn_eq_some_iff othersAscending.nodup, same]
  exact permuted.eq_of_pairwise (fun _ _ _ _ less greater => absurd greater less.asymm)
    ascending othersAscending

/-- The sorted entries hold for each name the value that it was given last. -/
theorem valueIn_snapshot_eq_lastValueOf (table : Table) :
    valueIn table.snapshot = table.lastValueOf := by
  funext name
  rw [snapshot, valueIn_foldl]
  exact Option.or_none

theorem valueIn_snapshot (distinct : table.names.Nodup) :
    valueIn table.snapshot = table.valueOf := by
  rw [valueIn_snapshot_eq_lastValueOf]
  exact (valueIn_eq_of_perm (List.reverse_perm table.entries).symm distinct).symm

/-- Tables with distinct names have one snapshot if and only if they are one map. -/
theorem snapshot_eq_iff (distinct : table.names.Nodup) (otherDistinct : other.names.Nodup) :
    table.snapshot = other.snapshot ↔ table.valueOf = other.valueOf := by
  rw [← valueIn_snapshot distinct, ← valueIn_snapshot otherDistinct]
  exact ⟨congrArg valueIn, (ascending_snapshot table).eq_of_valueIn_eq (ascending_snapshot other)⟩

/-- The entries of a table sorted by name: every name once, with the value that it was given
last. -/
structure SortedAs (table : Table) (listing : List (String × Value)) : Prop where
  ascending : Ascending listing
  lastValue : valueIn listing = table.lastValueOf

theorem sortedAs_iff {listing : List (String × Value)} :
    table.SortedAs listing ↔ listing = table.snapshot := by
  constructor
  · intro sorted
    refine sorted.ascending.eq_of_valueIn_eq (ascending_snapshot table) ?_
    rw [sorted.lastValue, valueIn_snapshot_eq_lastValueOf]
  · rintro rfl
    exact ⟨ascending_snapshot table, valueIn_snapshot_eq_lastValueOf table⟩

theorem snapshot_eq_of_lastValueOf_eq (same : table.lastValueOf = other.lastValueOf) :
    table.snapshot = other.snapshot :=
  sortedAs_iff.1 ⟨ascending_snapshot table, (valueIn_snapshot_eq_lastValueOf table).trans same⟩

theorem lastValueOf_eq_of_perm (permuted : other.entries.Perm table.entries)
    (distinct : table.names.Nodup) : other.lastValueOf = table.lastValueOf := by
  have turned : table.entries.reverse.Perm other.entries.reverse :=
    ((List.reverse_perm _).trans permuted.symm).trans (List.reverse_perm _).symm
  have turnedDistinct : (table.entries.reverse.map (·.1)).Nodup := by
    rwa [List.map_reverse, List.nodup_reverse]
  exact (valueIn_eq_of_perm turned turnedDistinct).symm

theorem mem_of_mem_snapshot (member : entry ∈ table.snapshot) : entry ∈ table.entries := by
  unfold snapshot at member
  suffices kept : ∀ entries sorted : List (String × Value),
      entry ∈ entries.foldl (fun sorted entry => Table.insertSorted entry sorted) sorted →
        entry ∈ entries ∨ entry ∈ sorted from
    (kept table.entries [] member).elim id fun inNone => nomatch inNone
  intro entries
  induction entries with
  | nil => exact fun _ inSorted => .inr inSorted
  | cons first rest ih =>
    intro sorted inFold
    rcases ih _ inFold with inRest | inserted
    · exact .inl (List.mem_cons_of_mem _ inRest)
    · rcases mem_insertSorted inserted with rfl | inSorted
      · exact .inl List.mem_cons_self
      · exact .inr inSorted

end Sorting

end SqlWright.Table
