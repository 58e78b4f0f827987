import SqlWright.Proofs.Template.Outline
import SqlWright.Style
/-! Texts whose parentheses pair up and that hold no semicolon. Put together, they give such
texts again. -/
namespace SqlWright

/-- How many parentheses are open behind one more character. No closing one may come first. -/
def parenthesisDepth (depth : Nat) (c : Char) : Option Nat :=
  if c = '(' then some (depth + 1)
  else if c = ')' then (if depth = 0 then none else some (depth - 1))
  else some depth

/-- How many are open behind a text, if none is closed in it before it was opened. -/
def depthAfter (text : String) (depth : Nat) : Option Nat :=
  text.toList.foldlM parenthesisDepth depth

def isBalanced (text : String) : Bool := depthAfter text 0 = some 0

def isTidy (text : String) : Bool := isBalanced text && !text.toList.contains ';'

/-- With so many parentheses open around it the text leaves them open, and it ends no statement. -/
structure Tidy (text : String) (floor : Nat := 0) : Prop where
  level : depthAfter text floor = some floor
  unterminated : ';' ∉ text.toList

/-- Characters that neither open or close a parenthesis nor end a statement. -/
def isHarmless (c : Char) : Bool := c ≠ ';' && c ≠ '(' && c ≠ ')'

variable {first second text : String} {floor : Nat}

theorem tidy_of_isTidy (tidy : isTidy text = true) : Tidy text := by
  obtain ⟨balanced, unterminated⟩ := Bool.and_eq_true_iff.mp tidy
  exact ⟨of_decide_eq_true balanced, by simpa using unterminated⟩

section Depth

theorem depthAfter_append (first second : String) (depth : Nat) :
    depthAfter (first ++ second) depth = (depthAfter first depth).bind (depthAfter second) := by
  simp only [depthAfter, String.toList_append, List.foldlM_append]
  rfl

/-- More open parentheses around a text stay open. -/
theorem depthAfter_add {depth final : Nat} (more : Nat)
    (reached : depthAfter text depth = some final) :
    depthAfter text (depth + more) = some (final + more) := by
  unfold depthAfter at reached ⊢
  generalize text.toList = cs at reached ⊢
  induction cs generalizing depth with
  | nil =>
    cases reached
    rfl
  | cons c rest ih =>
    rw [List.foldlM_cons] at reached ⊢
    obtain ⟨next, step, reached⟩ := Option.bind_eq_some_iff.mp reached
    have shifted : parenthesisDepth (depth + more) c = some (next + more) := by
      unfold parenthesisDepth at step ⊢
      split at step
      · cases step
        simp [*, Nat.add_right_comm]
      · split at step
        · split at step
          · cases step
          · cases step
            have positive : depth + more ≠ 0 := by omega
            have swapped : depth + more - 1 = depth - 1 + more := by omega
            simp [*]
        · cases step
          simp [*]
    rw [shifted]
    exact ih reached

end Depth

namespace Tidy

theorem add (tidy : Tidy text floor) (more : Nat) : Tidy text (floor + more) :=
  ⟨depthAfter_add more tidy.level, tidy.unterminated⟩

theorem append (firstTidy : Tidy first floor) (secondTidy : Tidy second floor) :
    Tidy (first ++ second) floor where
  level := by
    rw [depthAfter_append, firstTidy.level]
    exact secondTidy.level
  unterminated := by
    simpa [String.toList_append] using ⟨firstTidy.unterminated, secondTidy.unterminated⟩

theorem parenthesize (tidy : Tidy text (floor + 1)) : Tidy ("(" ++ text ++ ")") floor where
  level := by
    have opened : depthAfter "(" floor = some (floor + 1) := rfl
    have closed : depthAfter ")" (floor + 1) = some floor := rfl
    rw [depthAfter_append, depthAfter_append, opened, Option.bind_some, tidy.level,
      Option.bind_some, closed]
  unterminated := by simpa [String.toList_append] using tidy.unterminated

theorem of_harmless (harmless : text.toList.all isHarmless = true) : Tidy text floor := by
  have plain : ∀ c ∈ text.toList, c ≠ ';' ∧ c ≠ '(' ∧ c ≠ ')' := by
    simpa [isHarmless, and_assoc] using harmless
  refine ⟨?_, fun member => (plain ';' member).1 rfl⟩
  unfold depthAfter
  generalize text.toList = cs at plain
  induction cs with
  | nil => rfl
  | cons c rest ih =>
    obtain ⟨⟨-, noOpening, noClosing⟩, restPlain⟩ := List.forall_mem_cons.mp plain
    rw [List.foldlM_cons, parenthesisDepth, if_neg noOpening, if_neg noClosing]
    exact ih restPlain

theorem empty : Tidy "" floor := of_harmless rfl

theorem intercalate {separator : String} {texts : List String} (separatorTidy : Tidy separator)
    (tidy : ∀ text ∈ texts, Tidy text) : Tidy (separator.intercalate texts) := by
  induction texts with
  | nil => exact empty
  | cons first rest ih =>
    have firstTidy := tidy first (List.mem_cons_self ..)
    have restTidy := ih fun text member => tidy text (List.mem_cons_of_mem _ member)
    cases rest with
    | nil => simpa using firstTidy
    | cons second others =>
      rw [String.intercalate_cons_cons]
      exact (firstTidy.append separatorTidy).append restTidy

theorem toString (n : Nat) : Tidy (toString n) := by
  refine of_harmless (List.all_eq_true.mpr fun c member => ?_)
  have different : ∀ other : Char, other.isDigit = false → c ≠ other :=
    fun _ noDigit => Placeholder.ne_of_mem_toString member noDigit
  simp [isHarmless, different]

theorem generated (index : Nat) : Tidy (Placeholder.generated index) := by
  have lead : Tidy ":p" := of_harmless rfl
  exact lead.append (toString index)

theorem quoteIdentifier {quote : Char} (harmless : isHarmless quote = true) (tidy : Tidy text) :
    Tidy (quoteIdentifier text quote) := by
  have quoteTidy : Tidy quote.toString := of_harmless (by simpa using harmless)
  unfold SqlWright.quoteIdentifier
  split
  · exact tidy
  · exact (quoteTidy.append tidy).append quoteTidy

/-- The terminator of a statement is all that is dropped from its text. -/
theorem dropTerminators_append (tidy : Tidy text) : dropTerminators (text ++ ";") = text := by
  have kept : text.toList.reverse.dropWhile (· = ';') = text.toList.reverse := by
    cases spelled : text.toList.reverse with
    | nil => rfl
    | cons c rest =>
      have other : c ≠ ';' := by
        rintro rfl
        apply tidy.unterminated
        rw [← List.mem_reverse, spelled]
        exact List.mem_cons_self ..
      simp [other]
  simp [dropTerminators, String.toList_append, kept]

end Tidy

end SqlWright
