import SqlWright.Proofs.Cache.Survival
/-! The two ways to a value of a record: by the name of its column, and as a member of the object
that rows are read from. Where a name stands several times the first way leads to the first of
its values and the second way to the last. -/
namespace SqlWright

/-- The values under columns of this name, in the order of the columns. -/
def Record.valuesUnder (record : Record) (column : String) : List Value :=
  ((record.columns.zip record.values).filter (·.1 = column)).map (·.2)

namespace RecordObject

open Record (putMember memberValue)

variable {object : RecordObject} {column name : String} {value : Value}

theorem member?_putMember : member? (putMember object name value) column =
    if name = column then some value else object.member? column := by
  unfold member?
  induction object with
  | nil =>
    by_cases same : name = column
    · simp [putMember, same]
    · simp [putMember, same]
  | cons first rest ih =>
    by_cases own : first.1 = name
    · by_cases same : name = column
      · simp [putMember, own, same]
      · simp [putMember, own, same]
    · by_cases met : first.1 = column
      · subst met
        simp [putMember, own, Ne.symm own]
      · simpa [putMember, own, met] using ih

/-- Of members put one after the other the last one under a name counts, and without one the
member that was there. -/
theorem member?_putAll (members : List (String × Value)) :
    member? (members.foldl (fun object member => putMember object member.1 (memberValue member.2))
        object) column =
      ((members.filter (·.1 = column)).getLast?.map fun member => memberValue member.2).or
        (object.member? column) := by
  induction members generalizing object with
  | nil => rfl
  | cons first rest ih =>
    rw [List.foldl_cons, ih, member?_putMember]
    by_cases own : first.1 = column
    · cases last : (rest.filter (·.1 = column)).getLast? with
      | none => simp [own, List.getLast?_cons, last]
      | some member => simp [own, List.getLast?_cons, last]
    · simp [own]

end RecordObject

namespace Record

variable {record : Record} {column : String}

theorem get?_eq_head? (record : Record) (column : String) :
    record.get? column = (record.valuesUnder column).head? := by
  obtain ⟨columns, values⟩ := record
  simp only [get?, valuesUnder]
  induction columns generalizing values with
  | nil => rfl
  | cons first rest ih =>
    cases values with
    | nil => simp
    | cons value others =>
      by_cases own : first = column
      · simp [List.findIdx?_cons, own]
      · simpa [List.findIdx?_cons, own, Option.bind_map, Function.comp_def] using ih others

theorem member?_object (record : Record) (column : String) :
    record.object.member? column = ((record.valuesUnder column).map memberValue).getLast? := by
  have filled : record.object.member? column = _ :=
    RecordObject.member?_putAll (record.columns.zip record.values)
  rw [filled, valuesUnder, List.map_map, List.getLast?_map]
  exact Option.or_none

theorem mem_values_of_mem_valuesUnder {value : Value} (under : value ∈ record.valuesUnder column) :
    value ∈ record.values := by
  obtain ⟨member, kept, rfl⟩ := List.mem_map.1 under
  exact (List.of_mem_zip (List.mem_of_mem_filter kept)).2

theorem map_memberValue_valuesUnder (finite : ∀ value ∈ record.values, value.IsFinite) :
    (record.valuesUnder column).map memberValue = record.valuesUnder column := by
  refine (List.map_congr_left fun value under => ?_).trans (List.map_id _)
  exact memberValue_eq_self_iff.2 (finite value (mem_values_of_mem_valuesUnder under))

/-- There are no more values under a name than columns of that name. -/
theorem length_valuesUnder_le (record : Record) (column : String) :
    (record.valuesUnder column).length ≤ record.columns.count column := by
  obtain ⟨columns, values⟩ := record
  simp only [valuesUnder, List.length_map, ← List.countP_eq_length_filter]
  induction columns generalizing values with
  | nil => simp
  | cons first rest ih =>
    cases values with
    | nil => simp
    | cons value others =>
      have fewer := ih others
      by_cases own : first = column
      · simpa [own] using fewer
      · simpa [own] using fewer

/-- A value is found by name exactly where the object of the row has a member of that name. The
first of the values under the name is found, the member is the last of them, and so both are one
value where the first and the last are, as where the name stands once. -/
theorem found_by_name_iff_member (record : Record)
    (finite : ∀ value ∈ record.values, value.IsFinite) (column : String) :
    ((record.get? column).isSome ↔ (record.object.member? column).isSome) ∧
      record.get? column = (record.valuesUnder column).head? ∧
      record.object.member? column = (record.valuesUnder column).getLast? ∧
      (record.columns.count column ≤ 1 → record.get? column = record.object.member? column) := by
  have first := record.get?_eq_head? column
  have last := record.member?_object column
  rw [map_memberValue_valuesUnder finite] at last
  refine ⟨?_, first, last, fun once => ?_⟩
  · rw [first, last, List.isSome_head?, List.getLast?_isSome]
  · have few := (record.length_valuesUnder_le column).trans once
    rw [first, last]
    match record.valuesUnder column, few with
    | [], _ => rfl
    | [value], _ => rfl

/-- A row of two joined tables, with one value more than columns: the name of the second column
stands once, and that of the first and third leads to two values. -/
theorem found_by_name_iff_member_of_join :
    let record : Record :=
      ⟨["id", "name", "id"], [.int 1, .text "ann", .int 2, .float ⟨0x3FF8000000000000⟩]⟩
    (∀ value ∈ record.values, value.IsFinite) ∧ record.columns.count "name" ≤ 1 ∧
      record.get? "name" = record.object.member? "name" ∧
      record.get? "id" = some (.int 1) ∧ record.object.member? "id" = some (.int 2) := by
  intro record
  have finite : ∀ value ∈ record.values, value.IsFinite := by
    simp [record, Value.IsFinite]
    decide
  have once : record.columns.count "name" ≤ 1 := by decide
  obtain ⟨-, first, last, -⟩ := found_by_name_iff_member record finite "id"
  exact ⟨finite, once, (found_by_name_iff_member record finite "name").2.2.2 once,
    first.trans (by decide), last.trans (by decide)⟩

/-- A repeated name leads to two values: by name to the first, and in the object to the last. -/
theorem repeated_name_leads_apart :
    let record : Record := ⟨["id", "id"], [.int 1, .int 2]⟩
    (∀ value ∈ record.values, value.IsFinite) ∧ record.get? "id" = some (.int 1) ∧
      record.object.member? "id" = some (.int 2) := by
  intro record
  refine ⟨?_, by decide, by decide⟩
  simp [record, Value.IsFinite]

end Record

end SqlWright
