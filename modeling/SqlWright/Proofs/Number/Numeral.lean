import Mathlib.Tactic.Ring
import SqlWright.Number.Numeral
/-! Reading an integer within a range. It is read exactly where the text spells it, an optional
sign and at least one digit, and the range has it: a number that leaves the range at an early digit
never comes back into it. -/
namespace SqlWright

/-- The texts that spell an integer in decimal digits. -/
inductive Spells : List Char → Int → Prop where
  | plain {digits : List Char} (nonempty : digits ≠ []) (all : ∀ c ∈ digits, c.isDigit = true) :
      Spells digits (Nat.ofDigitChars 10 digits 0)
  | plus {digits : List Char} (nonempty : digits ≠ []) (all : ∀ c ∈ digits, c.isDigit = true) :
      Spells ('+' :: digits) (Nat.ofDigitChars 10 digits 0)
  | minus {digits : List Char} (nonempty : digits ≠ []) (all : ∀ c ∈ digits, c.isDigit = true) :
      Spells ('-' :: digits) (-Nat.ofDigitChars 10 digits 0)

namespace IntegerRange

variable {range : IntegerRange} {n : Int}

instance : Membership Int IntegerRange := ⟨fun range n => range.low ≤ n ∧ n ≤ range.high⟩

theorem mem_iff : n ∈ range ↔ range.low ≤ n ∧ n ≤ range.high := Iff.rfl

theorem check_of_mem (within : n ∈ range) : range.check n = .ok n := by
  obtain ⟨low, high⟩ := within
  rw [check, if_neg (by omega), if_neg (by omega)]

theorem exists_check_error (outside : n ∉ range) : ∃ fault, range.check n = .error fault := by
  unfold check
  split
  · exact ⟨_, rfl⟩
  · next high =>
    split
    · exact ⟨_, rfl⟩
    · next low => exact absurd (mem_iff.2 ⟨by omega, by omega⟩) outside

end IntegerRange

section Digits

variable {range : IntegerRange} {sign : Int} {digits : List Char} {start : Nat} {n : Int}

theorem le_ofDigitChars (digits : List Char) (start : Nat) :
    start ≤ Nat.ofDigitChars 10 digits start := by
  induction digits generalizing start with
  | nil => exact Nat.le_refl start
  | cons c rest ih =>
    rw [Nat.ofDigitChars_cons]
    exact Nat.le_trans (by omega) (ih _)

/-- On its side of zero, nothing beyond a number outside the range is inside it. -/
theorem IntegerRange.not_mem_of_le {near far : Nat} (zero : (0 : Int) ∈ range)
    (signed : sign = 1 ∨ sign = -1) (le : near ≤ far) (outside : sign * near ∉ range) :
    sign * far ∉ range := by
  obtain ⟨low, high⟩ := zero
  intro within
  apply outside
  rw [mem_iff] at within ⊢
  rcases signed with rfl | rfl <;> omega

/-- Read from a number on that the range has, digits give the number they spell behind it. -/
theorem readDigits_eq_ok_iff (zero : (0 : Int) ∈ range) (signed : sign = 1 ∨ sign = -1)
    (within : sign * start ∈ range) : readDigits range sign (sign * start) digits = .ok n ↔
      (∀ c ∈ digits, c.isDigit = true) ∧ n = sign * Nat.ofDigitChars 10 digits start ∧
        n ∈ range := by
  induction digits generalizing start with
  | nil =>
    rw [readDigits, Except.ok.injEq, Nat.ofDigitChars_nil]
    constructor
    · rintro rfl
      exact ⟨by simp, rfl, within⟩
    · rintro ⟨-, rfl, -⟩
      rfl
  | cons c rest ih =>
    rw [readDigits]
    by_cases digit : c.isDigit = true
    · have longer : sign * start * 10 + sign * digitValue c =
          sign * (10 * start + digitValue c : Nat) := by push_cast; ring
      rw [if_pos digit, longer, Nat.ofDigitChars_cons, List.forall_mem_cons]
      by_cases inside : sign * (10 * start + digitValue c : Nat) ∈ range
      · rw [IntegerRange.check_of_mem inside]
        refine (ih inside).trans ?_
        simp [digit, digitValue]
      · obtain ⟨fault, refused⟩ := IntegerRange.exists_check_error inside
        rw [refused]
        constructor
        · intro impossible
          cases impossible
        · rintro ⟨-, rfl, later⟩
          exact absurd later
            (IntegerRange.not_mem_of_le zero signed (le_ofDigitChars rest _) inside)
    · rw [if_neg digit]
      simp [digit]

theorem readDigits_zero_eq_ok_iff (zero : (0 : Int) ∈ range) (signed : sign = 1 ∨ sign = -1) :
    readDigits range sign 0 digits = .ok n ↔
      (∀ c ∈ digits, c.isDigit = true) ∧ n = sign * Nat.ofDigitChars 10 digits 0 ∧ n ∈ range := by
  have within : sign * (0 : Nat) ∈ range := by simpa using zero
  simpa using @readDigits_eq_ok_iff range sign digits 0 n zero signed within

end Digits

namespace Spells

variable {chars digits : List Char} {n : Int}

theorem plus_iff : Spells ('+' :: digits) n ↔ digits ≠ [] ∧
    (∀ c ∈ digits, c.isDigit = true) ∧ n = Nat.ofDigitChars 10 digits 0 := by
  constructor
  · intro spelled
    cases spelled with
    | plain _ all => exact absurd (all '+' (by simp)) (by decide)
    | plus nonempty all => exact ⟨nonempty, all, rfl⟩
  · rintro ⟨nonempty, all, rfl⟩
    exact .plus nonempty all

theorem minus_iff : Spells ('-' :: digits) n ↔ digits ≠ [] ∧
    (∀ c ∈ digits, c.isDigit = true) ∧ n = -Nat.ofDigitChars 10 digits 0 := by
  constructor
  · intro spelled
    cases spelled with
    | plain _ all => exact absurd (all '-' (by simp)) (by decide)
    | minus nonempty all => exact ⟨nonempty, all, rfl⟩
  · rintro ⟨nonempty, all, rfl⟩
    exact .minus nonempty all

theorem unsigned_iff (noPlus : ∀ digits, chars ≠ '+' :: digits)
    (noMinus : ∀ digits, chars ≠ '-' :: digits) : Spells chars n ↔ chars ≠ [] ∧
      (∀ c ∈ chars, c.isDigit = true) ∧ n = Nat.ofDigitChars 10 chars 0 := by
  constructor
  · intro spelled
    cases spelled with
    | plain nonempty all => exact ⟨nonempty, all, rfl⟩
    | plus => exact absurd rfl (noPlus _)
    | minus => exact absurd rfl (noMinus _)
  · rintro ⟨nonempty, all, rfl⟩
    exact .plain nonempty all

theorem unique {m : Int} (first : Spells chars m) (second : Spells chars n) : m = n := by
  cases first with
  | plain nonempty all => cases second with
    | plain => rfl
    | plus => exact absurd (all '+' (by simp)) (by decide)
    | minus => exact absurd (all '-' (by simp)) (by decide)
  | plus => rw [(plus_iff.1 second).2.2]
  | minus => rw [(minus_iff.1 second).2.2]

theorem not_nil : ¬ Spells [] n := by
  intro spelled
  cases spelled with
  | plain nonempty => exact nonempty rfl

end Spells

/-- A text is read as a number exactly where it spells the number and the range has it. -/
theorem readInteger_eq_ok_iff {range : IntegerRange} (zero : (0 : Int) ∈ range) {text : String}
    {n : Int} : readInteger range text = .ok n ↔ Spells text.toList n ∧ n ∈ range := by
  unfold readInteger
  generalize text.toList = chars
  split
  · simp [Spells.not_nil]
  · simp [Spells.plus_iff]
  · simp [Spells.minus_iff]
  · next digits alone =>
    have nonempty : digits ≠ [] := fun empty => alone (by rw [empty])
    simp [Spells.plus_iff, readDigits_zero_eq_ok_iff zero, nonempty, and_assoc]
  · next digits alone =>
    have nonempty : digits ≠ [] := fun empty => alone (by rw [empty])
    simp [Spells.minus_iff, readDigits_zero_eq_ok_iff zero, nonempty, and_assoc]
  · next empty _ _ noPlus noMinus =>
    have nonempty : chars ≠ [] := empty
    rw [Spells.unsigned_iff noPlus noMinus, readDigits_zero_eq_ok_iff zero (.inl rfl)]
    simp [nonempty, and_assoc]

end SqlWright
