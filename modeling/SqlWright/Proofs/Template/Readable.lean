import SqlWright.Proofs.Postgres.Readable
import SqlWright.Proofs.Template.Outline
/-! Templates whose text is split as it was meant: the generated placeholders in it are those
of the scalars, numbered on from the counter, and every other one has a binding. -/
namespace SqlWright.Template

open Postgres (placeholderNames Shuts Verbatim)

/-- A placeholder before the template would end there. -/
def Opens (template : Template) : Prop := ∀ index, Postgres.Opens (template.outline.text index)

/-- The text starts with this character. -/
def Starts (template : Template) (c : Char) : Prop :=
  ∀ index, (template.outline.text index).toList.head? = some c

/-- The text is split as it was meant, wherever the counter stands. -/
structure Readable (template : Template) : Prop where
  readable : ∀ index, Postgres.Readable (template.outline.text index)
  generated : ∀ index, (placeholderNames (template.outline.text index)).filter
    Placeholder.isReserved = (List.range' index template.scalars.length).map Placeholder.serial
  bound : ∀ index, ∀ name ∈ placeholderNames (template.outline.text index),
    Placeholder.isReserved name = false → ∃ value, .named (":" ++ name) value ∈ template.bindings

variable {first second body : Template} {terms : List Template} {literal : String}

section Leaves

theorem readable_text (verbatim : Verbatim literal) : (text literal).Readable where
  readable _ := verbatim.readable
  generated index := by
    simp [outline, Outline.text, scalars, verbatim.placeholderNames_eq_nil]
  bound index name member := by
    simp [outline, Outline.text, verbatim.placeholderNames_eq_nil] at member

theorem readable_empty : empty.Readable :=
  readable_text (Postgres.verbatim_of_isPlainText rfl)

theorem readable_scalar (value : Value) : (scalar value).Readable where
  readable index := by
    simpa [outline, Outline.text] using Postgres.readable_generated index
  generated index := by
    simp [outline, Outline.text, scalars, Postgres.placeholderNames_generated,
      Placeholder.isReserved_serial]
  bound index name member free := by
    simp only [outline, Outline.text, String.empty_append, String.append_empty,
      Postgres.placeholderNames_generated, List.mem_singleton] at member
    rw [member, Placeholder.isReserved_serial] at free
    cases free

/-- A plain fragment has no placeholders but its own, and none of the generated shape. -/
theorem readable_fragment {source : Fragment} (plain : source.isPlain = true) :
    (fragment source).Readable := by
  obtain ⟨legible, named⟩ := Postgres.legible_of_colonsBound plain
  have held : ∀ name ∈ placeholderNames source.text,
      ∃ value, (":" ++ name, value) ∈ source.params.entries := by
    intro name member
    obtain ⟨⟨other, value⟩, inParams, rfl⟩ := List.mem_map.mp (named name member)
    exact ⟨value, inParams⟩
  refine ⟨fun _ => legible, ?_, ?_⟩
  · intro index
    apply List.filter_eq_nil_iff.mpr
    intro name member reserved
    obtain ⟨value, inParams⟩ := held name member
    have spared := Placeholder.isGenerated_of_isCallerName (source.callerNamed _ inParams)
    rw [Placeholder.isGenerated_colon, reserved] at spared
    cases spared
  · intro index name member _
    obtain ⟨value, inParams⟩ := held name member
    exact ⟨value, List.mem_map.mpr ⟨_, inParams, rfl⟩⟩

end Leaves

section Joining

private theorem Readable.append (firstReadable : first.Readable) (secondReadable : second.Readable)
    (boundary : ∀ index, Shuts (first.outline.text index) ∨
      Postgres.Opens (second.outline.text (index + first.scalars.length))) :
    (first ++ second).Readable := by
  have names : ∀ index, placeholderNames ((first ++ second).outline.text index) =
      placeholderNames (first.outline.text index) ++
        placeholderNames (second.outline.text (index + first.scalars.length)) := by
    intro index
    rw [text_append]
    exact Postgres.placeholderNames_append (firstReadable.readable _)
      (secondReadable.readable _) (boundary index)
  refine ⟨?_, ?_, ?_⟩
  · intro index
    rw [text_append]
    exact (firstReadable.readable _).append (secondReadable.readable _) (boundary index)
  · intro index
    have count : (first ++ second).scalars.length = first.scalars.length + second.scalars.length :=
      List.length_append
    rw [names, List.filter_append, firstReadable.generated, secondReadable.generated, count,
      ← List.map_append, List.range'_append_1]
  · intro index name member free
    rw [names] at member
    rcases List.mem_append.mp member with inFirst | inSecond
    · obtain ⟨value, held⟩ := firstReadable.bound _ name inFirst free
      exact ⟨value, List.mem_append_left _ held⟩
    · obtain ⟨value, held⟩ := secondReadable.bound _ name inSecond free
      exact ⟨value, List.mem_append_right _ held⟩

theorem Readable.append_opens (firstReadable : first.Readable) (secondReadable : second.Readable)
    (opens : second.Opens) : (first ++ second).Readable :=
  firstReadable.append secondReadable fun _ => .inr (opens _)

theorem Readable.text_append (verbatim : Verbatim literal) (bodyReadable : body.Readable) :
    (text literal ++ body).Readable :=
  (readable_text verbatim).append bodyReadable fun _ => .inl verbatim.shuts

theorem Readable.append_text (firstReadable : first.Readable) (verbatim : Verbatim literal)
    (opens : Postgres.Opens literal) : (first ++ text literal).Readable :=
  firstReadable.append_opens (readable_text verbatim) fun _ => opens

/-- Nothing is written for passed-over operands. -/
theorem Readable.notice_append (dropped : Nat) (bodyReadable : body.Readable) :
    (notice dropped ++ body).Readable := by
  have blank : (notice dropped).Readable :=
    ⟨readable_empty.readable, readable_empty.generated, readable_empty.bound⟩
  exact blank.append bodyReadable fun _ => .inl (Postgres.verbatim_of_isPlainText rfl).shuts

/-- Two templates stay apart where verbatim text between them ends the first. -/
theorem Readable.around {c : Char} (firstReadable : first.Readable)
    (secondReadable : second.Readable) (verbatim : Verbatim literal)
    (starts : literal.toList.head? = some c) (stop : Postgres.isNamePart c = false) :
    (first ++ text literal ++ second).Readable := by
  have opens := Postgres.opens_of_head? starts stop
  have nonempty : literal ≠ "" := by
    rintro rfl
    cases starts
  refine (firstReadable.append_text verbatim opens).append secondReadable fun index => .inl ?_
  rw [Template.text_append]
  exact verbatim.shuts_append nonempty (firstReadable.readable _) opens

/-- A nested statement loses its terminators alone. -/
theorem Readable.nested (bodyReadable : body.Readable) : (nested body).Readable := by
  have trimmed : ∀ index, (Template.nested body).outline.text index =
      dropTerminators (body.outline.text index) :=
    fun index => (Outline.dropTerminators_text _ index).symm
  have names : ∀ index, placeholderNames ((Template.nested body).outline.text index) =
      placeholderNames (body.outline.text index) := by
    intro index
    rw [trimmed, Postgres.placeholderNames_dropTerminators (bodyReadable.readable index)]
  refine ⟨?_, ?_, ?_⟩
  · intro index
    rw [trimmed]
    exact (bodyReadable.readable index).dropTerminators
  · intro index
    rw [names]
    exact bodyReadable.generated index
  · intro index name member free
    rw [names] at member
    exact bodyReadable.bound index name member free

theorem Opens.append (firstOpens : first.Opens) (secondOpens : second.Opens) :
    (first ++ second).Opens := by
  intro index
  rw [text_append]
  exact (firstOpens _).append (secondOpens _)

theorem starts_text {c : Char} (starts : literal.toList.head? = some c) :
    (text literal).Starts c := fun _ => starts

theorem Starts.append {c : Char} (starts : first.Starts c) : (first ++ second).Starts c := by
  intro index
  rw [text_append, String.toList_append, List.head?_append, starts index]
  rfl

theorem Starts.opens {c : Char} (starts : first.Starts c) (stop : Postgres.isNamePart c = false) :
    first.Opens := fun index => Postgres.opens_of_head? (starts index) stop

theorem opens_empty : empty.Opens := by
  intro _ c isHead
  cases isHead

theorem readable_parenthesized (bodyReadable : body.Readable) : (parenthesized body).Readable := by
  have opened : (text "(" ++ body).Readable :=
    .text_append (Postgres.verbatim_of_isPlainText rfl) bodyReadable
  exact opened.append_text (Postgres.verbatim_of_isPlainText rfl) (Postgres.opens_of_head? rfl rfl)

end Joining

end SqlWright.Template
