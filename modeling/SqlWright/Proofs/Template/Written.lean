import SqlWright.Proofs.Template.Texts
/-! The text of one part of a statement, read against the table of the whole: what the part writes
where its scalars are numbered as the table has them. -/
namespace SqlWright.Template

/-- A table holds what a template binds when its scalars are numbered on from an index. -/
structure BoundIn (params : Table) (index : Nat) (template : Template) : Prop where
  scalars : Placeholder.numbered index template.scalars ⊆ params.entries
  names : ∀ name value, Binding.named name value ∈ template.bindings → name ∈ params.names

/-- A text stands for a template in a statement with this table. -/
def WrittenIn (params : Table) (template : Template) (text : String) : Prop :=
  ∃ index, template.BoundIn params index ∧ text = (template.emit ⟨[], index⟩).1

variable {params : Table} {index : Nat} {first second body template : Template}

/-- Writing removes no name from a table and adds those that the template binds. -/
theorem mem_names_emit {table : Table} {name : String}
    (held : name ∈ table.names ∨ ∃ value, Binding.named name value ∈ template.bindings) :
    name ∈ (template.emit table).2.names := by
  induction template generalizing table with
  | text literal => simpa [bindings, emit] using held
  | scalar value =>
    rcases held with old | ⟨other, named⟩
    · exact Table.names_allocate ▸ List.mem_append_left _ old
    · simp [bindings] at named
  | fragment source =>
    refine Table.mem_names_setAll.mpr (held.imp_right ?_)
    rintro ⟨value, named⟩
    obtain ⟨entry, member, same⟩ := List.mem_map.mp named
    cases same
    exact List.mem_map_of_mem member
  | notice dropped => simpa [bindings, emit] using held
  | append first second firstIh secondIh =>
    rcases held with old | ⟨value, named⟩
    · exact secondIh (.inl (firstIh (.inl old)))
    · rcases List.mem_append.mp named with early | late
      · exact secondIh (.inl (firstIh (.inr ⟨value, early⟩)))
      · exact secondIh (.inr ⟨value, late⟩)
  | nested body ih =>
    refine Table.mem_names_setAll.mpr ?_
    rcases held with old | named
    · exact .inl old
    · exact .inr (ih (.inr named))

theorem boundIn_emit (template : Template) (table : Table) :
    template.BoundIn (template.emit table).2 table.next where
  scalars := numbered_subset_emit template table
  names _ value member := mem_names_emit (.inr ⟨value, member⟩)

theorem boundIn_append : (first ++ second).BoundIn params index ↔
    first.BoundIn params index ∧ second.BoundIn params (index + first.scalars.length) := by
  have bindings : (first ++ second).bindings = first.bindings ++ second.bindings := rfl
  have scalars : (first ++ second).scalars = first.scalars ++ second.scalars := rfl
  constructor
  · rintro ⟨bound, named⟩
    rw [scalars, Placeholder.numbered_append, List.append_subset] at bound
    rw [bindings] at named
    exact ⟨⟨bound.1, fun name value member => named name value (List.mem_append_left _ member)⟩,
      ⟨bound.2, fun name value member => named name value (List.mem_append_right _ member)⟩⟩
  · rintro ⟨⟨firstBound, firstNamed⟩, ⟨secondBound, secondNamed⟩⟩
    refine ⟨?_, fun name value member => ?_⟩
    · rw [scalars, Placeholder.numbered_append, List.append_subset]
      exact ⟨firstBound, secondBound⟩
    · rw [bindings] at member
      exact (List.mem_append.mp member).elim (firstNamed name value) (secondNamed name value)

theorem writtenIn_iff {text : String} : template.WrittenIn params text ↔
    ∃ index, template.BoundIn params index ∧ text = template.outline.text index := by
  simp only [WrittenIn, text_emit]

theorem writtenIn_emit (template : Template) (table : Table) :
    template.WrittenIn (template.emit table).2 (template.emit table).1 :=
  writtenIn_iff.mpr ⟨_, boundIn_emit template table, text_emit template table⟩

theorem writtenIn_build (template : Template) :
    template.WrittenIn template.build.params template.build.sql :=
  writtenIn_emit template {}

theorem WrittenIn.exists_append {text : String}
    (written : (first ++ second).WrittenIn params text) :
    ∃ front back, text = front ++ back ∧
      first.WrittenIn params front ∧ second.WrittenIn params back := by
  obtain ⟨index, bound, rfl⟩ := writtenIn_iff.mp written
  obtain ⟨firstBound, secondBound⟩ := boundIn_append.mp bound
  exact ⟨_, _, text_append first second index, writtenIn_iff.mpr ⟨_, firstBound, rfl⟩,
    writtenIn_iff.mpr ⟨_, secondBound, rfl⟩⟩

theorem WrittenIn.eq_literal {literal written : String}
    (stands : (text literal).WrittenIn params written) : written = literal := by
  obtain ⟨_, _, rfl⟩ := stands
  rfl

theorem WrittenIn.isBlank_iff {text : String} (written : template.WrittenIn params text) :
    template.isBlank = true ↔ text = "" := by
  obtain ⟨_, _, rfl⟩ := written
  exact Template.isBlank_iff template _

/-- A scalar is written as a generated name that the table holds it under. -/
theorem writtenIn_scalar {value : Value} {text : String} :
    (scalar value).WrittenIn params text ↔
      ∃ index, text = Placeholder.generated index ∧ (text, value) ∈ params.entries := by
  constructor
  · rintro ⟨index, bound, rfl⟩
    exact ⟨index, rfl, bound.scalars (List.mem_singleton_self _)⟩
  · rintro ⟨index, rfl, held⟩
    refine ⟨index, ⟨?_, by simp [bindings]⟩, rfl⟩
    intro entry member
    rwa [List.mem_singleton.mp member]

/-- Joined templates are written as their texts with the separator between them. -/
theorem WrittenIn.exists_joined {separator text : String} {terms : List Template}
    (written : (joined separator terms).WrittenIn params text) :
    ∃ texts, text = separator.intercalate texts ∧
      List.Forall₂ (WrittenIn params) terms texts := by
  induction terms generalizing text with
  | nil => exact ⟨[], by simpa using written.eq_literal, .nil⟩
  | cons first rest ih =>
    cases rest with
    | nil => exact ⟨[text], by simp, .cons written .nil⟩
    | cons second others =>
      obtain ⟨front, back, rfl, frontWritten, backWritten⟩ := written.exists_append
      obtain ⟨firstText, _, rfl, firstWritten, between⟩ := frontWritten.exists_append
      obtain ⟨texts, rfl, restWritten⟩ := ih backWritten
      refine ⟨firstText :: texts, ?_, .cons firstWritten restWritten⟩
      have nonempty : texts ≠ [] := by
        rintro rfl
        cases restWritten
      rw [String.intercalate_cons_of_ne_nil nonempty, between.eq_literal]

theorem WrittenIn.exists_parenthesized {text : String}
    (written : (parenthesized body).WrittenIn params text) :
    ∃ inner, text = "(" ++ inner ++ ")" ∧ body.WrittenIn params inner := by
  obtain ⟨_, _, rfl, front, closing⟩ := written.exists_append
  obtain ⟨_, inner, rfl, opening, bodyWritten⟩ := front.exists_append
  exact ⟨inner, by rw [opening.eq_literal, closing.eq_literal], bodyWritten⟩

end SqlWright.Template
