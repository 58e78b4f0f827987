import SqlWright.Json.Number
import SqlWright.Number.Layout
import SqlWright.Proofs.Number.Interval
/-! Numbers in JSON text. A written number is read back digit by digit, whatever follows it
inside a larger text, and it stands for the decimal it was written for. -/
namespace SqlWright.Json

/-- What may follow a value: the end of the text, or a mark between values. -/
def Delimited (rest : List Char) : Prop := ∀ c ∈ rest.head?, c = ',' ∨ c = ']' ∨ c = '\x7d'

section Digits

variable {digits rest : List Char}

private theorem naturalOfDigits_eq (digits : List Char) :
    naturalOfDigits digits = Nat.ofDigitChars 10 digits 0 := by
  simp [naturalOfDigits, Nat.ofDigitChars_eq_foldl, digitValue, Nat.mul_comm]

theorem naturalOfDigits_toDigits (n : Nat) : naturalOfDigits (Nat.toDigits 10 n) = n := by
  rw [naturalOfDigits_eq, Nat.ofDigitChars_ten_toDigits]

private theorem naturalOfDigits_append_zeros (digits : List Char) (count : Nat) :
    naturalOfDigits (digits ++ List.replicate count '0') = naturalOfDigits digits * 10 ^ count := by
  simp only [naturalOfDigits_eq, Nat.ofDigitChars_append, Nat.ofDigitChars_replicate_zero,
    Nat.mul_comm]

private theorem naturalOfDigits_zeros_append (digits : List Char) (count : Nat) :
    naturalOfDigits (List.replicate count '0' ++ digits) = naturalOfDigits digits := by
  simp [naturalOfDigits_eq, Nat.ofDigitChars_append]

theorem isDigit_of_mem_toDigits {n : Nat} {c : Char} (member : c ∈ Nat.toDigits 10 n) :
    c.isDigit = true :=
  Nat.isDigit_of_mem_toDigits (by decide) (by decide) member

theorem exists_toDigits_cons {n : Nat} (nonzero : n ≠ 0) :
    ∃ first rest, Nat.toDigits 10 n = first :: rest ∧ first ≠ '0' := by
  induction n using Nat.strongRecOn with
  | ind n ih =>
    by_cases small : n < 10
    · have notZero : ∀ digit < 10, digit ≠ 0 → Nat.digitChar digit ≠ '0' := by decide
      exact ⟨n.digitChar, [], Nat.toDigits_of_lt_base small, notZero n small nonzero⟩
    · obtain ⟨first, rest, same, notZero⟩ := ih (n / 10) (by omega) (by omega)
      refine ⟨first, rest ++ [(n % 10).digitChar], ?_, notZero⟩
      rw [Nat.toDigits_of_base_le (by decide) (by omega), same, List.cons_append]

/-- Text that no digit starts. -/
def NoDigitAhead (rest : List Char) : Prop := ∀ c ∈ rest.head?, c.isDigit = false

theorem takeWhile_isDigit_append (all : ∀ c ∈ digits, c.isDigit = true)
    (ends : NoDigitAhead rest) : (digits ++ rest).takeWhile Char.isDigit = digits := by
  rw [List.takeWhile_append_of_pos all]
  cases rest with
  | nil => simp
  | cons c rest => simp [ends c (by simp)]

theorem dropWhile_isDigit_append (all : ∀ c ∈ digits, c.isDigit = true)
    (ends : NoDigitAhead rest) : (digits ++ rest).dropWhile Char.isDigit = rest := by
  rw [List.dropWhile_append_of_pos all]
  cases rest with
  | nil => simp
  | cons c rest => simp [ends c (by simp)]

end Digits

namespace Number

variable {number : Number} {rest : List Char}

def exponentText : Option Int → List Char
  | none => []
  | some exponent =>
    'e' :: (if exponent < 0 then '-' else '+') :: Nat.toDigits 10 exponent.natAbs

def fractionText (digits : List Char) : List Char :=
  if digits.isEmpty then [] else '.' :: digits

/-- A number in the form in which numbers are written: the exponent always has a sign. -/
def text (number : Number) : List Char :=
  (if number.negative then ['-'] else []) ++ number.whole ++ fractionText number.fraction ++
    exponentText number.exponent

/-- Digits before the point, none of them a useless zero, and digits after it. -/
structure WellFormed (number : Number) : Prop where
  digits : ∀ c ∈ number.whole ++ number.fraction, c.isDigit = true
  leading : number.whole = ['0'] ∨ ∃ first others, number.whole = first :: others ∧ first ≠ '0'

private theorem noDigitAhead_exponentText (exponent : Option Int) (delimited : Delimited rest) :
    NoDigitAhead (exponentText exponent ++ rest) := by
  cases exponent with
  | none =>
    intro c head
    rcases delimited c head with rfl | rfl | rfl <;> rfl
  | some exponent =>
    intro c head
    obtain rfl : 'e' = c := Option.some.inj head
    rfl

private theorem noDigitAhead_fractionText (digits : List Char) (ends : NoDigitAhead rest) :
    NoDigitAhead (fractionText digits ++ rest) := by
  unfold fractionText
  split
  · exact ends
  · intro c head
    obtain rfl : '.' = c := Option.some.inj head
    rfl

theorem exponentPart_text (exponent : Option Int) (delimited : Delimited rest) :
    exponentPart (exponentText exponent ++ rest) = some (exponent, rest) := by
  have ends : NoDigitAhead rest := noDigitAhead_exponentText none delimited
  cases exponent with
  | none =>
    cases rest with
    | nil => rfl
    | cons c rest => rcases delimited c rfl with rfl | rfl | rfl <;> rfl
  | some exponent =>
    have all : ∀ c ∈ Nat.toDigits 10 exponent.natAbs, c.isDigit = true :=
      fun _ => isDigit_of_mem_toDigits
    have taken := takeWhile_isDigit_append all ends
    have dropped := dropWhile_isDigit_append all ends
    have nonempty : Nat.toDigits 10 exponent.natAbs ≠ [] := Nat.toDigits_ne_nil
    by_cases negative : exponent < 0
    · have magnitude : -|exponent| = exponent := by rw [abs_of_neg negative, neg_neg]
      simp [exponentPart, exponentText, exponentDigits, negative, taken, dropped, nonempty,
        naturalOfDigits_toDigits, magnitude]
    · have magnitude : |exponent| = exponent := abs_of_nonneg (not_lt.1 negative)
      simp [exponentPart, exponentText, exponentDigits, negative, taken, dropped, nonempty,
        naturalOfDigits_toDigits, magnitude]

theorem fractionPart_text {digits : List Char} (all : ∀ c ∈ digits, c.isDigit = true)
    (ends : NoDigitAhead rest) (noPoint : ∀ c ∈ rest.head?, c ≠ '.') :
    fractionPart (fractionText digits ++ rest) = some (digits, rest) := by
  cases digits with
  | nil =>
    cases rest with
    | nil => rfl
    | cons c rest => simp [fractionText, fractionPart, noPoint c rfl]
  | cons first others =>
    have taken := takeWhile_isDigit_append all ends
    have dropped := dropWhile_isDigit_append all ends
    simp only [List.cons_append] at taken dropped
    simp [fractionText, fractionPart, taken, dropped]

theorem wholePart_append {whole : List Char} (all : ∀ c ∈ whole, c.isDigit = true)
    (leading : whole = ['0'] ∨ ∃ first others, whole = first :: others ∧ first ≠ '0')
    (ends : NoDigitAhead rest) : wholePart (whole ++ rest) = some (whole, rest) := by
  rcases leading with rfl | ⟨first, others, rfl, notZero⟩
  · rfl
  · have taken := takeWhile_isDigit_append all ends
    have dropped := dropWhile_isDigit_append all ends
    simp only [List.cons_append] at taken dropped
    simp [wholePart, notZero, taken, dropped]

/-- A written number is read as itself in front of any delimiter. -/
theorem read_text (wellFormed : number.WellFormed) (delimited : Delimited rest) :
    read (number.text ++ rest) = some (number, rest) := by
  obtain ⟨negative, whole, fraction, exponent⟩ := number
  obtain ⟨all, leading⟩ := wellFormed
  have afterFraction := noDigitAhead_exponentText exponent delimited
  have wholeRead := wholePart_append (fun c member => all c (List.mem_append_left _ member))
    leading (noDigitAhead_fractionText fraction afterFraction)
  have noPoint : ∀ c ∈ (exponentText exponent ++ rest).head?, c ≠ '.' := by
    intro c head
    cases exponent with
    | none => rcases delimited c head with rfl | rfl | rfl <;> decide
    | some exponent =>
      obtain rfl : 'e' = c := Option.some.inj head
      decide
  have fractionRead := fractionPart_text
    (fun c member => all c (List.mem_append_right _ member)) afterFraction noPoint
  have exponentRead := exponentPart_text exponent delimited
  cases negative with
  | true => simp [read, text, wholeRead, fractionRead, exponentRead]
  | false =>
    have notMinus : ∀ others, whole ≠ '-' :: others := by
      rintro others rfl
      exact absurd (all '-' (by simp)) (by decide)
    obtain ⟨first, others, rfl⟩ : ∃ first others, whole = first :: others :=
      leading.elim (fun same => ⟨_, _, same⟩) fun ⟨first, others, same, _⟩ => ⟨first, others, same⟩
    have notMinus : first ≠ '-' := fun same => notMinus others (by rw [same])
    simp only [List.cons_append] at wholeRead
    simp [read, text, notMinus, wholeRead, fractionRead, exponentRead]

/-- A written number starts with its sign or with a digit. -/
theorem exists_text_cons (wellFormed : number.WellFormed) :
    ∃ first others, number.text = first :: others ∧ (first = '-' ∨ first.isDigit = true) := by
  obtain ⟨first, others, same⟩ : ∃ first others, number.whole = first :: others :=
    wellFormed.leading.elim (fun same => ⟨_, _, same⟩)
      fun ⟨first, others, same, _⟩ => ⟨first, others, same⟩
  unfold text
  cases number.negative with
  | true => exact ⟨'-', _, rfl, .inl rfl⟩
  | false =>
    refine ⟨first, _, by rw [same]; rfl, .inr (wellFormed.digits first ?_)⟩
    simp [same]

theorem mem_text (wellFormed : number.WellFormed) {c : Char} (member : c ∈ number.text) :
    c.isDigit = true ∨ c ∈ ['-', '+', '.', 'e'] := by
  simp only [text, List.mem_append] at member
  rcases member with ((sign | inWhole) | inFraction) | inExponent
  · split at sign
    · obtain rfl := List.mem_singleton.1 sign
      exact .inr (by decide)
    · cases sign
  · exact .inl (wellFormed.digits c (List.mem_append_left _ inWhole))
  · unfold fractionText at inFraction
    split at inFraction
    · cases inFraction
    · rcases List.mem_cons.1 inFraction with rfl | inDigits
      · exact .inr (by decide)
      · exact .inl (wellFormed.digits c (List.mem_append_right _ inDigits))
  · unfold exponentText at inExponent
    split at inExponent
    · cases inExponent
    · rcases List.mem_cons.1 inExponent with rfl | inSigned
      · exact .inr (by decide)
      · rcases List.mem_cons.1 inSigned with sign | inDigits
        · split at sign
          · exact .inr (by simp [sign])
          · exact .inr (by simp [sign])
        · exact .inl (isDigit_of_mem_toDigits inDigits)

/-- The size of a number, without its sign. -/
def magnitude (number : Number) : ℚ :=
  naturalOfDigits (number.whole ++ number.fraction) *
    10 ^ (number.exponent.getD 0 - number.fraction.length)

/-- The number that is written for a decimal. -/
def ofDecimal (negative : Bool) (decimal : Decimal) : Number :=
  let digits := Nat.toDigits 10 decimal.digits
  let leading := decimal.exponent + digits.length - 1
  if -5 ≤ leading ∧ leading ≤ 15 then
    if 0 ≤ decimal.exponent then
      ⟨negative, digits ++ NumberLayout.zeros decimal.exponent.toNat, ['0'], none⟩
    else if 0 ≤ leading then
      ⟨negative, digits.take (leading.toNat + 1), digits.drop (leading.toNat + 1), none⟩
    else ⟨negative, ['0'], NumberLayout.zeros (-leading - 1).toNat ++ digits, none⟩
  else ⟨negative, digits.take 1, digits.drop 1, some leading⟩

variable {negative : Bool} {decimal : Decimal}

theorem text_ofDecimal : (ofDecimal negative decimal).text =
    (if negative then ['-'] else []) ++ NumberLayout.json.decimalText decimal := by
  have nonempty : Nat.toDigits 10 decimal.digits ≠ [] := Nat.toDigits_ne_nil
  simp only [ofDecimal, NumberLayout.decimalText, NumberLayout.json, NumberLayout.positionalText,
    NumberLayout.exponentText, text, fractionText, exponentText]
  split
  · split
    · simp
    · split
      · simp
        omega
      · simp [nonempty]
  · simp

private theorem isDigit_of_mem_ofDecimal {c : Char}
    (member : c ∈ (ofDecimal negative decimal).whole ++ (ofDecimal negative decimal).fraction) :
    c.isDigit = true := by
  have either : c ∈ Nat.toDigits 10 decimal.digits ∨ c = '0' := by
    unfold ofDecimal at member
    simp only at member
    split at member
    · split at member
      · simp only [List.mem_append, NumberLayout.zeros, List.mem_replicate, List.mem_singleton]
          at member
        tauto
      · split at member
        · rw [List.take_append_drop] at member
          exact .inl member
        · simp only [List.mem_append, NumberLayout.zeros, List.mem_replicate, List.mem_singleton]
          at member
          tauto
    · rw [List.take_append_drop] at member
      exact .inl member
  rcases either with inDigits | rfl
  · exact isDigit_of_mem_toDigits inDigits
  · rfl

/-- A number starts with a zero only where nothing else stands before its point. -/
private theorem leading_ofDecimal (plain : decimal.digits ≠ 0 ∨ decimal.exponent = 0) :
    (ofDecimal negative decimal).whole = ['0'] ∨
      ∃ first others, (ofDecimal negative decimal).whole = first :: others ∧ first ≠ '0' := by
  by_cases zero : decimal.digits = 0
  · have exponent : decimal.exponent = 0 := plain.resolve_left (not_not.2 zero)
    exact .inl (by simp [ofDecimal, zero, exponent, NumberLayout.zeros])
  · obtain ⟨first, others, same, notZero⟩ := exists_toDigits_cons zero
    unfold ofDecimal
    simp only [same]
    split
    · split
      · exact .inr ⟨first, _, rfl, notZero⟩
      · split
        · exact .inr ⟨first, _, rfl, notZero⟩
        · exact .inl rfl
    · exact .inr ⟨first, _, rfl, notZero⟩

theorem wellFormed_ofDecimal (plain : decimal.digits ≠ 0 ∨ decimal.exponent = 0) :
    (ofDecimal negative decimal).WellFormed where
  digits _ := isDigit_of_mem_ofDecimal
  leading := leading_ofDecimal plain

theorem magnitude_ofDecimal : (ofDecimal negative decimal).magnitude = decimal.value := by
  have positive : 0 < (Nat.toDigits 10 decimal.digits).length := Nat.length_toDigits_pos
  unfold ofDecimal
  simp only
  split
  · split
    · next whole =>
      obtain ⟨power, same⟩ := Int.eq_ofNat_of_zero_le whole
      have digits : Nat.toDigits 10 decimal.digits ++ NumberLayout.zeros decimal.exponent.toNat ++
          ['0'] = Nat.toDigits 10 decimal.digits ++ List.replicate (power + 1) '0' := by
        simp [NumberLayout.zeros, same, List.replicate_succ']
      have point : (10 : ℚ) ^ ((0 : Int) - (1 : Nat)) = 10⁻¹ := by norm_num
      simp only [magnitude, Option.getD_none, List.length_singleton]
      rw [digits, naturalOfDigits_append_zeros, naturalOfDigits_toDigits, point, Decimal.value,
        same, zpow_natCast]
      push_cast
      rw [pow_succ]
      field_simp
    · split
      · simp only [magnitude, List.take_append_drop, naturalOfDigits_toDigits, Decimal.value,
          Option.getD_none, List.length_drop]
        congr 2
        omega
      · next inFraction =>
        have digits (count : Nat) : ['0'] ++ (NumberLayout.zeros count ++
            Nat.toDigits 10 decimal.digits) =
            List.replicate (count + 1) '0' ++ Nat.toDigits 10 decimal.digits := rfl
        simp only [magnitude, Option.getD_none, List.length_append]
        rw [digits, naturalOfDigits_zeros_append, naturalOfDigits_toDigits, Decimal.value,
          NumberLayout.zeros, List.length_replicate]
        congr 2
        omega
  · simp only [magnitude, List.take_append_drop, naturalOfDigits_toDigits, Decimal.value,
      Option.getD_some, List.length_drop]
    congr 2
    omega

theorem negative_ofDecimal : (ofDecimal negative decimal).negative = negative := by
  unfold ofDecimal
  simp only
  split_ifs <;> rfl

theorem isInteger_ofDecimal : (ofDecimal negative decimal).isInteger = false := by
  have nonempty : Nat.toDigits 10 decimal.digits ≠ [] := Nat.toDigits_ne_nil
  unfold ofDecimal
  simp only
  split
  · split
    · rfl
    · split
      · simp [isInteger]
        omega
      · simp [isInteger, nonempty]
  · simp [isInteger]

/-- The number written for a double; none is written for infinities and what is no number. -/
def ofDouble? (x : Double) : Option Number :=
  match x.datum with
  | .finite negative significand exponent =>
    some (ofDecimal negative (Decimal.ofDouble .toEven significand exponent))
  | .infinite _ | .notANumber .. => none

theorem isSome_ofDouble? (x : Double) : (ofDouble? x).isSome = x.isFinite := by
  unfold ofDouble? Double.isFinite
  cases x.datum <;> rfl

theorem toList_write (x : Double) :
    (NumberLayout.json.write x).toList = (ofDouble? x).elim ['n', 'u', 'l', 'l'] text := by
  unfold NumberLayout.write ofDouble?
  cases x.datum with
  | finite negative significand exponent =>
    rw [Option.elim_some, text_ofDecimal, String.toList_ofList]
    rfl
  | infinite negative => cases negative <;> simp [NumberLayout.json]
  | notANumber negative payload => simp [NumberLayout.json]

theorem wellFormed_ofDouble? {x : Double} (written : ofDouble? x = some number) :
    number.WellFormed := by
  unfold ofDouble? at written
  split at written
  · obtain rfl := Option.some.inj written
    exact wellFormed_ofDecimal (Decimal.plain_ofDouble ..)
  · cases written
  · cases written

theorem isInteger_ofDouble? {x : Double} (written : ofDouble? x = some number) :
    number.isInteger = false := by
  unfold ofDouble? at written
  split at written
  · obtain rfl := Option.some.inj written
    exact isInteger_ofDecimal
  · cases written
  · cases written

/-- No two doubles are written as the same number. -/
theorem ofDouble?_inj {x y : Double} (first : ofDouble? x = some number)
    (second : ofDouble? y = some number) : x = y := by
  unfold ofDouble? at first second
  split at first
  · next firstSign firstSignificand firstExponent firstDatum =>
    split at second
    · next secondSign secondSignificand secondExponent secondDatum =>
      have same := (Option.some.inj first).trans (Option.some.inj second).symm
      have signs := congrArg Number.negative same
      have magnitudes := congrArg Number.magnitude same
      rw [negative_ofDecimal, negative_ofDecimal] at signs
      rw [magnitude_ofDecimal, magnitude_ofDecimal] at magnitudes
      obtain ⟨rfl, rfl⟩ := RoundingInterval.normalized_of_value_eq
        (Double.finite_of_datum firstDatum).1 (Double.finite_of_datum secondDatum).1 magnitudes
      subst signs
      exact Double.eq_of_datum firstDatum secondDatum
    · cases second
    · cases second
  · cases first
  · cases first

end Number

end SqlWright.Json
