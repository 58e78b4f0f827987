import SqlWright.Proofs.Template.Bindings
/-! The shape of a template's text: fixed chunks with a placeholder between any two of them.
Where the counter stands decides the numbers in the placeholders and nothing else. -/
namespace SqlWright

/-- Chunks of text with a scalar between each and the next. -/
inductive Outline where
  | last (chunk : String)
  | hole (chunk : String) (value : Value) (rest : Outline)

namespace Outline

/-- The chunks with placeholders numbered on from an index between them. -/
def text : Outline → Nat → String
  | .last chunk, _ => chunk
  | .hole chunk _ rest, index => chunk ++ Placeholder.generated index ++ rest.text (index + 1)

def values : Outline → List Value
  | .last _ => []
  | .hole _ value rest => value :: rest.values

def prepend (chunk : String) : Outline → Outline
  | .last first => .last (chunk ++ first)
  | .hole first value rest => .hole (chunk ++ first) value rest

/-- The last chunk of the first outline and the first chunk of the second become one. -/
def append : Outline → Outline → Outline
  | .last chunk, second => second.prepend chunk
  | .hole chunk value rest, second => .hole chunk value (rest.append second)

/-- The outline without the semicolons at the end of its last chunk. -/
def trimmed : Outline → Outline
  | .last chunk => .last (dropTerminators chunk)
  | .hole chunk value rest => .hole chunk value rest.trimmed

theorem text_prepend (chunk : String) (outline : Outline) (index : Nat) :
    (outline.prepend chunk).text index = chunk ++ outline.text index := by
  cases outline with
  | last first => rfl
  | hole first value rest => simp [prepend, text, String.append_assoc]

theorem values_prepend (chunk : String) (outline : Outline) :
    (outline.prepend chunk).values = outline.values := by
  cases outline <;> rfl

theorem values_append (first second : Outline) :
    (first.append second).values = first.values ++ second.values := by
  induction first with
  | last chunk => exact values_prepend chunk second
  | hole chunk value rest ih => simp [append, values, ih]

theorem values_trimmed (outline : Outline) : outline.trimmed.values = outline.values := by
  induction outline with
  | last chunk => rfl
  | hole chunk value rest ih => simp [trimmed, values, ih]

theorem text_append (first second : Outline) (index : Nat) :
    (first.append second).text index =
      first.text index ++ second.text (index + first.values.length) := by
  induction first generalizing index with
  | last chunk => exact text_prepend chunk second index
  | hole chunk value rest ih =>
    have shifted : index + 1 + rest.values.length = index + (rest.values.length + 1) := by omega
    simp [append, text, values, ih, String.append_assoc, shifted]

end Outline

/-- Semicolons are dropped from the second of two texts only, if the first ends in another
character. -/
theorem dropTerminators_append {first : String} (second : String) {final : Char}
    (ends : first.toList.getLast? = some final) (other : final ≠ ';') :
    dropTerminators (first ++ second) = first ++ dropTerminators second := by
  obtain ⟨front, spelled⟩ := List.getLast?_eq_some_iff.mp ends
  have kept : (first.toList.reverse).dropWhile (· = ';') = first.toList.reverse := by
    simp [spelled, other]
  apply String.toList_injective
  simp only [dropTerminators, String.toList_append, String.toList_ofList, List.reverse_append,
    List.dropWhile_append]
  split
  · next none =>
    simp [kept, List.isEmpty_iff.mp none]
  · simp

theorem Placeholder.getLast?_generated (index : Nat) :
    ∃ digit, (generated index).toList.getLast? = some digit ∧ digit ≠ ';' := by
  have nonempty : Nat.toDigits 10 index ≠ [] := Nat.toDigits_ne_nil
  refine ⟨(Nat.toDigits 10 index).getLast nonempty, ?_, ?_⟩
  · simp [toList_generated, List.getLast?_cons, List.getLast?_eq_some_getLast nonempty]
  · intro same
    have digit := List.all_eq_true.mp (isDigit_toDigits index) _ (List.getLast_mem nonempty)
    rw [same] at digit
    cases digit

namespace Outline

/-- A placeholder ends in a digit, so dropping semicolons never reaches into one. -/
theorem dropTerminators_text (outline : Outline) (index : Nat) :
    dropTerminators (outline.text index) = outline.trimmed.text index := by
  induction outline generalizing index with
  | last chunk => rfl
  | hole chunk value rest ih =>
    obtain ⟨digit, ends, other⟩ := Placeholder.getLast?_generated index
    have chunkEnds : (chunk ++ Placeholder.generated index).toList.getLast? = some digit := by
      simp [String.toList_append, List.getLast?_append, ends]
    simp only [text, trimmed]
    rw [dropTerminators_append _ chunkEnds other, ih]

end Outline

namespace Template

def outline : Template → Outline
  | .text literal => .last literal
  | .scalar value => .hole "" value (.last "")
  | .fragment source => .last source.text
  | .notice _ => .last ""
  | .append first second => first.outline.append second.outline
  | .nested body => body.outline.trimmed

theorem values_outline (template : Template) : template.outline.values = template.scalars := by
  induction template with
  | text literal => rfl
  | scalar value => rfl
  | fragment source => rfl
  | notice dropped => rfl
  | append first second firstIh secondIh =>
    simp [outline, scalars, Outline.values_append, firstIh, secondIh]
  | nested body ih => simp [outline, scalars, Outline.values_trimmed, ih]

theorem text_append (first second : Template) (index : Nat) :
    (first ++ second).outline.text index =
      first.outline.text index ++ second.outline.text (index + first.scalars.length) := by
  rw [← values_outline]
  exact Outline.text_append first.outline second.outline index

/-- The counter moves by the number of scalars, whatever the table holds. -/
theorem next_emit (template : Template) (table : Table) :
    (template.emit table).2.next = table.next + template.scalars.length := by
  induction template generalizing table with
  | text literal => rfl
  | scalar value => rfl
  | fragment source => exact Table.next_setAll source.params.entries
  | notice dropped => rfl
  | append first second firstIh secondIh =>
    have step := secondIh (first.emit table).2
    rw [firstIh] at step
    simpa [emit, scalars, Nat.add_assoc] using step
  | nested body ih =>
    have forked : (body.emit table.fork).2.next = table.next + body.scalars.length := ih table.fork
    simp only [emit, scalars, Table.absorb, Table.next_setAll, forked]
    omega

/-- The text depends on a table through its counter alone. -/
theorem text_emit (template : Template) (table : Table) :
    (template.emit table).1 = template.outline.text table.next := by
  induction template generalizing table with
  | text literal => rfl
  | scalar value => simp [emit, outline, Outline.text, Table.allocate]
  | fragment source => rfl
  | notice dropped => rfl
  | append first second firstIh secondIh =>
    simp [emit, outline, Outline.text_append, firstIh, secondIh, next_emit, values_outline]
  | nested body ih =>
    have forked : (body.emit table.fork).1 = body.outline.text table.next := ih table.fork
    simp [emit, outline, forked, Outline.dropTerminators_text]

theorem sql_build (template : Template) : template.build.sql = template.outline.text 0 :=
  text_emit template {}

/-- What a nested statement brings to the table around it: names in no entry twice, and
those of the generated shape numbered on from the counter. -/
private theorem entries_fork (body : Template) (table : Table) :
    (body.emit table.fork).2.names.Nodup ∧ (body.emit table.fork).2.generatedEntries =
      Placeholder.numbered table.next body.scalars := by
  have forked := Table.sound_fork table
  rw [emit_table forked.fresh]
  refine ⟨(forked.bindAll body.callerNamed_bindings).distinct, ?_⟩
  rw [Table.generatedEntries_bindAll body.callerNamed_bindings, filterMap_bindings]
  rfl

/-- A generated placeholder below the counter keeps its value in any table. -/
theorem mem_emit {template : Template} {table : Table} {index : Nat} {value : Value}
    (below : index < table.next) (held : (Placeholder.generated index, value) ∈ table.entries) :
    (Placeholder.generated index, value) ∈ (template.emit table).2.entries := by
  induction template generalizing table with
  | text literal => exact held
  | scalar value => exact List.mem_append_left _ held
  | fragment source =>
    apply Table.mem_setAll_of_absent held
    intro named
    obtain ⟨entry, member, same⟩ := List.mem_map.mp named
    exact Placeholder.ne_generated_of_isCallerName (source.callerNamed entry member) index same
  | notice dropped => exact held
  | append first second firstIh secondIh =>
    have still : index < (first.emit table).2.next := by
      rw [next_emit]
      omega
    exact secondIh still (firstIh below held)
  | nested body ih =>
    have absent : Placeholder.generated index ∉ (body.emit table.fork).2.names := by
      intro named
      obtain ⟨entry, member, same⟩ := List.mem_map.mp named
      have generated : entry ∈ (body.emit table.fork).2.generatedEntries := by
        simp [Table.generatedEntries, member, same, Placeholder.isGenerated_generated]
      rw [(entries_fork body table).2] at generated
      obtain ⟨other, lower, _, otherSame⟩ := Placeholder.mem_numbered generated
      have sameIndex := Placeholder.generated_inj.mp (same.symm.trans otherSame)
      omega
    exact @Table.mem_setAll_of_absent { table with next := _ } _ _ held absent

/-- Writing binds the scalars under the names from the counter on, in any table. -/
theorem numbered_subset_emit (template : Template) (table : Table) :
    Placeholder.numbered table.next template.scalars ⊆ (template.emit table).2.entries := by
  induction template generalizing table with
  | text literal => exact List.nil_subset _
  | scalar value => exact List.subset_append_right _ _
  | fragment source => exact List.nil_subset _
  | notice dropped => exact List.nil_subset _
  | append first second firstIh secondIh =>
    intro entry member
    simp only [scalars, Placeholder.numbered_append] at member
    rcases List.mem_append.mp member with early | late
    · obtain ⟨name, value⟩ := entry
      obtain ⟨index, _, upper, rfl⟩ := Placeholder.mem_numbered early
      apply mem_emit _ (firstIh table early)
      rw [next_emit]
      exact upper
    · rw [← next_emit first table] at late
      exact secondIh (first.emit table).2 late
  | nested body ih =>
    intro entry member
    exact Table.mem_setAll (entries_fork body table).1 (ih table.fork member)

end Template

end SqlWright
