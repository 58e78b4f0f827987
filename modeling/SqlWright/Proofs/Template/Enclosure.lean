import SqlWright.Proofs.Text.Tidy
/-! A text read with the statements that were merged into it told apart from its other
characters. Each stands between parentheses that are its own. -/
namespace SqlWright

/-- A character, or a statement merged into the text. -/
inductive Glyph where
  | char (c : Char)
  | merged (body : List Glyph)

namespace Glyph

mutual

/-- What is written: of a merged statement, all but its terminators. -/
def text : Glyph → String
  | .char c => String.singleton c
  | .merged body => dropTerminators (texts body)

def texts : List Glyph → String
  | [] => ""
  | glyph :: rest => glyph.text ++ texts rest

end

/-- Text into which nothing was merged. -/
def plain (literal : String) : List Glyph := literal.toList.map .char

theorem texts_append (first second : List Glyph) :
    texts (first ++ second) = texts first ++ texts second := by
  induction first with
  | nil => simp [texts]
  | cons glyph rest ih => simp [texts, ih, String.append_assoc]

theorem texts_plain (literal : String) : texts (plain literal) = literal := by
  apply String.toList_injective
  unfold plain
  induction literal.toList with
  | nil => rfl
  | cons c rest ih => simp [texts, text, ih]

theorem plain_append (first second : String) :
    plain (first ++ second) = plain first ++ plain second := by
  simp [plain, String.toList_append]

end Glyph

open Glyph (plain texts)

/-- What may stand between a merged statement and a parenthesis around it. -/
def gaps : List String := ["", "\r\n"]

/-- Every merged statement has a pair of parentheses around it that are around nothing else, and
so has every one merged into that. -/
inductive Enclosed : List Glyph → Prop where
  | nil : Enclosed []
  | char (c : Char) {rest : List Glyph} (after : Enclosed rest) : Enclosed (.char c :: rest)
  | merged {before behind : String} {body rest : List Glyph} (beforeGap : before ∈ gaps)
      (behindGap : behind ∈ gaps) (tidy : Tidy (dropTerminators (texts body)))
      (inside : Enclosed body) (after : Enclosed rest) :
      Enclosed (plain ("(" ++ before) ++ .merged body :: plain (behind ++ ")") ++ rest)

namespace Enclosed

variable {first second : List Glyph}

theorem append (firstEnclosed : Enclosed first) (secondEnclosed : Enclosed second) :
    Enclosed (first ++ second) := by
  induction firstEnclosed with
  | nil => exact secondEnclosed
  | char c _ ih => exact ih.char c
  | merged beforeGap behindGap tidy inside _ _ ih =>
    rw [List.append_assoc]
    exact .merged beforeGap behindGap tidy inside ih

theorem plain_append (literal : String) (enclosed : Enclosed second) :
    Enclosed (plain literal ++ second) := by
  unfold plain
  induction literal.toList with
  | nil => exact enclosed
  | cons c rest ih => exact ih.char c

theorem plain (literal : String) : Enclosed (plain literal) := by
  simpa using plain_append literal .nil

end Enclosed

namespace Template

/-- The text of a template with its nested statements told apart. -/
def glyphs : Template → Nat → List Glyph
  | .text literal, _ => plain literal
  | .scalar _, index => plain (Placeholder.generated index)
  | .fragment source, _ => plain source.text
  | .notice _, _ => []
  | .append first second, index =>
    first.glyphs index ++ second.glyphs (index + first.scalars.length)
  | .nested body, index => [.merged (body.glyphs index)]

theorem texts_glyphs (template : Template) (index : Nat) :
    texts (template.glyphs index) = template.outline.text index := by
  induction template generalizing index with
  | text literal => exact Glyph.texts_plain literal
  | scalar value => simp [glyphs, Glyph.texts_plain, outline, Outline.text]
  | fragment source => exact Glyph.texts_plain source.text
  | notice dropped => rfl
  | append first second firstIh secondIh =>
    rw [glyphs, Glyph.texts_append, firstIh, secondIh]
    exact (text_append first second index).symm
  | nested body ih =>
    simp [glyphs, texts, Glyph.text, ih, outline, Outline.dropTerminators_text]

/-- The text pairs its parentheses, ends no statement, and encloses what was merged into it,
wherever the counter stands. -/
structure WellFormed (template : Template) : Prop where
  tidy : ∀ index, Tidy (template.outline.text index)
  enclosed : ∀ index, Enclosed (template.glyphs index)

/-- A text and the terminator of the statement that it makes up. -/
def Terminated (template : Template) : Prop :=
  ∃ body : Template, body.WellFormed ∧ template = body ++ .text ";"

/-- A merged statement, which is well-formed as soon as there are parentheses around it. -/
structure Merged (template : Template) : Prop where
  tidy : ∀ index, Tidy (template.outline.text index)
  enclosed : ∀ index, ∀ before ∈ gaps, ∀ behind ∈ gaps, ∀ rest, Enclosed rest →
    Enclosed (plain ("(" ++ before) ++ template.glyphs index ++ plain (behind ++ ")") ++ rest)

variable {first second body : Template} {terms : List Template} {literal : String}

section Leaves

theorem wellFormed_text (tidy : Tidy literal) : (text literal).WellFormed where
  tidy _ := tidy
  enclosed _ := .plain literal

theorem wellFormed_empty : empty.WellFormed := wellFormed_text .empty

theorem wellFormed_scalar (value : Value) : (scalar value).WellFormed where
  tidy index := by
    simpa [outline, Outline.text] using Tidy.generated index
  enclosed index := .plain (Placeholder.generated index)

theorem wellFormed_fragment {source : Fragment} (tidy : Tidy source.text) :
    (fragment source).WellFormed where
  tidy _ := tidy
  enclosed _ := .plain source.text

end Leaves

section Joining

theorem tidy_append (firstTidy : ∀ index, Tidy (first.outline.text index))
    (secondTidy : ∀ index, Tidy (second.outline.text index)) (index : Nat) :
    Tidy ((first ++ second).outline.text index) := by
  rw [text_append]
  exact (firstTidy _).append (secondTidy _)

theorem WellFormed.append (firstFormed : first.WellFormed) (secondFormed : second.WellFormed) :
    (first ++ second).WellFormed where
  tidy := tidy_append firstFormed.tidy secondFormed.tidy
  enclosed _ := (firstFormed.enclosed _).append (secondFormed.enclosed _)

theorem WellFormed.text_append (tidy : Tidy literal) (wellFormed : body.WellFormed) :
    (text literal ++ body).WellFormed := (wellFormed_text tidy).append wellFormed

theorem WellFormed.append_text (wellFormed : body.WellFormed) (tidy : Tidy literal) :
    (body ++ text literal).WellFormed := wellFormed.append (wellFormed_text tidy)

/-- How a template is put together does not matter, only what is written. -/
theorem WellFormed.of_glyphs (wellFormed : first.WellFormed)
    (same : ∀ index, second.glyphs index = first.glyphs index) : second.WellFormed where
  tidy index := by
    rw [← texts_glyphs, same, texts_glyphs]
    exact wellFormed.tidy index
  enclosed index := by
    rw [same]
    exact wellFormed.enclosed index

theorem text_parenthesized (body : Template) (index : Nat) :
    (parenthesized body).outline.text index = "(" ++ body.outline.text index ++ ")" := by
  unfold parenthesized
  rw [Template.text_append, Template.text_append]
  simp [outline, Outline.text, scalars]

theorem glyphs_append (first second : Template) (index : Nat) :
    (first ++ second).glyphs index =
      first.glyphs index ++ second.glyphs (index + first.scalars.length) := rfl

theorem glyphs_parenthesized (body : Template) (index : Nat) :
    (parenthesized body).glyphs index = plain "(" ++ body.glyphs index ++ plain ")" := rfl

theorem wellFormed_parenthesized (wellFormed : body.WellFormed) :
    (parenthesized body).WellFormed where
  tidy index := by
    rw [text_parenthesized]
    exact ((wellFormed.tidy index).add 1).parenthesize
  enclosed index := by
    rw [glyphs_parenthesized, List.append_assoc]
    exact .plain_append _ ((wellFormed.enclosed index).append (.plain _))

theorem wellFormed_joined {separator : String} (tidy : Tidy separator)
    (wellFormed : ∀ term ∈ terms, term.WellFormed) : (joined separator terms).WellFormed := by
  induction terms with
  | nil => exact wellFormed_empty
  | cons first rest ih =>
    have firstFormed := wellFormed first (List.mem_cons_self ..)
    have restFormed := ih fun term member => wellFormed term (List.mem_cons_of_mem _ member)
    cases rest with
    | nil => exact firstFormed
    | cons second others => exact (firstFormed.append_text tidy).append restFormed

end Joining

section Merging

/-- A tidy text and a terminator make up one statement. -/
theorem sql_build_terminated (tidy : ∀ index, Tidy (body.outline.text index)) :
    let sql := (body ++ text ";").build.sql
    isBalanced sql = true ∧ ∃ front, sql = front ++ ";" ∧ ';' ∉ front.toList := by
  intro sql
  have written : sql = body.outline.text 0 ++ ";" := by
    rw [show sql = _ from sql_build _, text_append]
    rfl
  refine ⟨?_, _, written, (tidy 0).unterminated⟩
  rw [written, isBalanced, depthAfter_append, (tidy 0).level]
  rfl

theorem Terminated.enclosed (terminated : body.Terminated) (index : Nat) :
    Enclosed (body.glyphs index) := by
  obtain ⟨core, wellFormed, rfl⟩ := terminated
  exact (wellFormed.enclosed index).append (.plain _)

/-- A nested statement loses its terminator and nothing else. -/
theorem Terminated.merged (terminated : body.Terminated) : (nested body).Merged := by
  have inside := terminated.enclosed
  obtain ⟨core, wellFormed, rfl⟩ := terminated
  have written (index : Nat) :
      dropTerminators ((core ++ text ";").outline.text index) = core.outline.text index := by
    rw [text_append]
    exact (wellFormed.tidy index).dropTerminators_append
  refine ⟨?_, ?_⟩
  · intro index
    rw [show (nested (core ++ text ";")).outline.text index = _ from
      (Outline.dropTerminators_text _ index).symm, written]
    exact wellFormed.tidy index
  · intro index before beforeGap behind behindGap rest after
    have tidy : Tidy (dropTerminators (texts ((core ++ text ";").glyphs index))) := by
      rw [texts_glyphs, written]
      exact wellFormed.tidy index
    simpa [glyphs] using Enclosed.merged beforeGap behindGap tidy (inside index) after

theorem Merged.notice_append (dropped : Nat) (merged : body.Merged) :
    (notice dropped ++ body).Merged where
  tidy index := by
    rw [text_append]
    simpa [outline, Outline.text, scalars] using merged.tidy index
  enclosed index := merged.enclosed (index + 0)

theorem Merged.wellFormed_parenthesized (merged : body.Merged) :
    (parenthesized body).WellFormed where
  tidy index := by
    rw [text_parenthesized]
    exact ((merged.tidy index).add 1).parenthesize
  enclosed index := by
    have alone := merged.enclosed index "" (by decide) "" (by decide) [] .nil
    simpa [glyphs_parenthesized] using alone

/-- Between two merged statements the parentheses of the first are closed and those of the second
are opened. -/
def seam (middle : String) : String := "\r\n)" ++ middle ++ "(\r\n"

private theorem tidy_seam {middle : String} (tidy : Tidy middle) : Tidy (seam middle) 1 where
  level := by
    have closed : depthAfter "\r\n)" 1 = some 0 := rfl
    have opened : depthAfter "(\r\n" 0 = some 1 := rfl
    rw [seam, depthAfter_append, depthAfter_append, closed, Option.bind_some, tidy.level,
      Option.bind_some, opened]
  unterminated := by simpa [seam, String.toList_append] using tidy.unterminated

private theorem joined_cons_cons (separator : String) (first second : Template)
    (others : List Template) : joined separator (first :: second :: others) =
      first ++ text separator ++ joined separator (second :: others) := rfl

private theorem tidy_chained {middle : String} (tidy : Tidy middle)
    (merged : ∀ term ∈ terms, term.Merged) (index : Nat) :
    Tidy ((joined (seam middle) terms).outline.text index) 1 := by
  induction terms generalizing index with
  | nil => exact .empty
  | cons first rest ih =>
    have firstTidy := ((merged first (List.mem_cons_self ..)).tidy index).add 1
    have restTidy := ih fun term member => merged term (List.mem_cons_of_mem _ member)
    cases rest with
    | nil => exact firstTidy
    | cons second others =>
      rw [joined_cons_cons, text_append, text_append]
      exact (firstTidy.append (tidy_seam tidy)).append (restTidy _)

private theorem enclosed_chained {middle : String} (before : String) (beforeGap : before ∈ gaps)
    (some : terms ≠ []) (merged : ∀ term ∈ terms, term.Merged) (index : Nat) :
    Enclosed (plain ("(" ++ before) ++ (joined (seam middle) terms).glyphs index ++ plain ")") := by
  induction terms generalizing index before with
  | nil => exact absurd rfl some
  | cons first rest ih =>
    have firstMerged := merged first (List.mem_cons_self ..)
    have restMerged := fun term member => merged term (List.mem_cons_of_mem _ member)
    cases rest with
    | nil => simpa [joined] using firstMerged.enclosed index before beforeGap "" (by decide) [] .nil
    | cons second others =>
      have restEnclosed := ih "\r\n" (by decide) (List.cons_ne_nil _ _) restMerged
        (index + (first ++ text (seam middle)).scalars.length)
      have both := firstMerged.enclosed index before beforeGap "\r\n" (by decide) _
        (.plain_append middle restEnclosed)
      have spelled : plain (seam middle) =
          plain ("\r\n" ++ ")") ++ (plain middle ++ plain ("(" ++ "\r\n")) := by
        simp [seam, plain, String.toList_append]
      simpa only [joined_cons_cons, glyphs_append, glyphs, spelled, List.append_assoc] using both

theorem wellFormed_chained {middle : String} (tidy : Tidy middle) (some : terms ≠ [])
    (merged : ∀ term ∈ terms, term.Merged) :
    (parenthesized (joined (seam middle) terms)).WellFormed where
  tidy index := by
    rw [text_parenthesized]
    exact (tidy_chained tidy merged index).parenthesize
  enclosed index := by
    simpa [glyphs_parenthesized] using
      enclosed_chained "" (by decide) some merged index

end Merging

end Template

end SqlWright
