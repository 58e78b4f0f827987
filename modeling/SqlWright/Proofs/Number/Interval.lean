import SqlWright.Number.Shortest
import Mathlib.Algebra.Order.Field.Rat
import Mathlib.Algebra.Order.Field.Power
import Mathlib.Tactic.FieldSimp
import Mathlib.Tactic.Linarith
import Mathlib.Tactic.Positivity
import Mathlib.Tactic.Ring
/-! Which numbers round to a double. The intervals of two doubles have no number in common, and
the shortest decimal of a double lies in its interval, so it tells the double from all others. -/
namespace SqlWright

/-- The number a decimal stands for. -/
def Decimal.value (decimal : Decimal) : ℚ := decimal.digits * 10 ^ decimal.exponent

theorem Decimal.value_strip (fuel : Nat) (decimal : Decimal) :
    (decimal.strip fuel).value = decimal.value := by
  induction fuel generalizing decimal with
  | zero => rfl
  | succ fuel ih =>
    unfold Decimal.strip
    split
    · next divisible =>
      rw [ih]
      have digits : (decimal.digits : ℚ) = ((decimal.digits / 10 : ℕ) : ℚ) * 10 := by
        exact_mod_cast (Nat.div_mul_cancel (Nat.dvd_of_mod_eq_zero divisible.2)).symm
      simp only [Decimal.value]
      rw [digits, zpow_add_one₀ (by norm_num : (10 : ℚ) ≠ 0)]
      ring
    · rfl

namespace RoundingInterval

section Comparing

variable {digits quarters : Nat} {tens twos : Int}

private theorem zpow_mul_pow_neg {base : ℚ} (positive : 0 < base) (exponent : Int) :
    base ^ exponent * base ^ (-exponent).toNat = base ^ exponent.toNat := by
  rw [← zpow_natCast, ← zpow_natCast, ← zpow_add₀ positive.ne']
  congr 1
  omega

/-- Both sides of the comparison are the two numbers, multiplied by one positive factor. -/
theorem compareScaled_eq : compareScaled digits tens quarters twos =
    compare ((digits : ℚ) * 10 ^ tens) (quarters * 2 ^ twos) := by
  have factor : (0 : ℚ) < 10 ^ (-tens).toNat * 2 ^ (-twos).toNat := by positivity
  have left : ((digits * Nat.pow 10 tens.toNat * Nat.pow 2 (-twos).toNat : ℕ) : ℚ) =
      digits * 10 ^ tens * (10 ^ (-tens).toNat * 2 ^ (-twos).toNat) := by
    push_cast [Nat.pow_eq]
    rw [← zpow_mul_pow_neg (by norm_num) tens]
    ring
  have right : ((quarters * Nat.pow 2 twos.toNat * Nat.pow 10 (-tens).toNat : ℕ) : ℚ) =
      quarters * 2 ^ twos * (10 ^ (-tens).toNat * 2 ^ (-twos).toNat) := by
    push_cast [Nat.pow_eq]
    rw [← zpow_mul_pow_neg (by norm_num) twos]
    ring
  have lt_iff := mul_lt_mul_iff_left₀ (b := (digits : ℚ) * 10 ^ tens)
    (c := quarters * 2 ^ twos) factor
  have gt_iff := mul_lt_mul_iff_left₀ (b := (quarters : ℚ) * 2 ^ twos)
    (c := digits * 10 ^ tens) factor
  rw [← left, ← right, Nat.cast_lt] at lt_iff
  rw [← left, ← right, Nat.cast_lt] at gt_iff
  unfold compareScaled
  rcases lt_trichotomy ((digits : ℚ) * 10 ^ tens) (quarters * 2 ^ twos) with less | same | greater
  · rw [compare_lt_iff_lt.2 less, compare_lt_iff_lt.2 (lt_iff.2 less)]
  · rw [compare_eq_iff_eq.2 same, compare_eq_iff_eq]
    exact le_antisymm (not_lt.1 (gt_iff.not.2 same.not_gt)) (not_lt.1 (lt_iff.not.2 same.not_lt))
  · rw [compare_gt_iff_gt.2 greater, compare_gt_iff_gt.2 (gt_iff.2 greater)]

end Comparing

variable {interval : RoundingInterval} {number : ℚ}

def value (interval : RoundingInterval) : ℚ := interval.significand * 2 ^ interval.exponent

/-- Four times the half-way point to the next smaller double, in units of the lowest bit. -/
def lowerQuarters (interval : RoundingInterval) : Nat :=
  if interval.narrowBelow then 4 * interval.significand - 1 else 4 * interval.significand - 2

def upperQuarters (interval : RoundingInterval) : Nat := 4 * interval.significand + 2

def quarter (interval : RoundingInterval) : ℚ := 2 ^ (interval.exponent - 2)

/-- A number between the half-way points, which count if the significand is even. -/
structure Covers (interval : RoundingInterval) (number : ℚ) : Prop where
  above : interval.lowerQuarters * interval.quarter ≤ number
  below : number ≤ interval.upperQuarters * interval.quarter
  inside : interval.significand % 2 = 1 →
    interval.lowerQuarters * interval.quarter < number ∧
      number < interval.upperQuarters * interval.quarter

theorem covers_of_contains {decimal : Decimal} (contained : interval.contains decimal = true) :
    interval.Covers decimal.value := by
  simp only [contains, compareScaled_eq, Bool.and_eq_true, Bool.or_eq_true, beq_iff_eq,
    compare_gt_iff_gt, compare_lt_iff_lt, compare_eq_iff_eq] at contained
  obtain ⟨above, below⟩ := contained
  refine ⟨?_, ?_, fun odd => ⟨?_, ?_⟩⟩
  · exact above.elim le_of_lt fun tie => tie.2.ge
  · exact below.elim le_of_lt fun tie => tie.2.le
  · exact above.elim id fun tie => absurd tie.1 (by omega)
  · exact below.elim id fun tie => absurd tie.1 (by omega)

theorem covers_of_candidate {tie : Tie} {scale : Int} {length : Nat} {decimal : Decimal}
    (found : interval.candidate tie scale length = some decimal) :
    interval.Covers decimal.value := by
  simp only [candidate] at found
  split at found
  · cases found
  · next lowerContained _ => exact Option.some.inj found ▸ covers_of_contains lowerContained
  · next upperContained => exact Option.some.inj found ▸ covers_of_contains upperContained
  · next lowerContained upperContained =>
    split at found
    · exact Option.some.inj found ▸ covers_of_contains lowerContained
    · exact Option.some.inj found ▸ covers_of_contains upperContained
    · exact Option.some.inj found ▸ covers_of_contains upperContained
    · split at found
      · exact Option.some.inj found ▸ covers_of_contains lowerContained
      · exact Option.some.inj found ▸ covers_of_contains upperContained

theorem value_exact : interval.exact.value = interval.value := by
  unfold exact value
  split
  · next whole =>
    obtain ⟨power, same⟩ := Int.eq_ofNat_of_zero_le whole
    simp [Decimal.value, same, Nat.pow_eq]
  · next fractional =>
    obtain ⟨power, same⟩ := Int.eq_ofNat_of_zero_le (by omega : 0 ≤ -interval.exponent)
    have negative : interval.exponent = -(power : Int) := by omega
    have ten : (10 : ℚ) = 5 * 2 := by norm_num
    simp only [Decimal.value, negative, neg_neg, Int.toNat_natCast, Nat.pow_eq, Nat.cast_mul,
      Nat.cast_pow, Nat.cast_ofNat, zpow_neg, zpow_natCast]
    rw [ten, mul_pow]
    field_simp

theorem quarter_pos : 0 < interval.quarter := by unfold quarter; positivity

theorem value_eq : interval.value = (4 * interval.significand : ℕ) * interval.quarter := by
  unfold value quarter
  rw [zpow_sub₀ (by norm_num : (2 : ℚ) ≠ 0)]
  push_cast
  ring

theorem covers_value (positive : 0 < interval.significand) : interval.Covers interval.value := by
  have below : interval.lowerQuarters < 4 * interval.significand := by
    unfold lowerQuarters
    split <;> omega
  have above : 4 * interval.significand < interval.upperQuarters := by
    unfold upperQuarters
    omega
  have low : interval.lowerQuarters * interval.quarter < interval.value := by
    rw [value_eq]
    exact mul_lt_mul_of_pos_right (by exact_mod_cast below) quarter_pos
  have high : interval.value < interval.upperQuarters * interval.quarter := by
    rw [value_eq]
    exact mul_lt_mul_of_pos_right (by exact_mod_cast above) quarter_pos
  exact ⟨low.le, high.le, fun _ => ⟨low, high⟩⟩

section Disjoint

variable {low high : Nat} {lowExponent highExponent exponent : Int}

/-- The significand and exponent of a finite double: in full precision, or with the least
exponent. -/
structure Normalized (significand : Nat) (exponent : Int) : Prop where
  bounded : significand < 2 ^ 53
  full : exponent ≠ BinaryFormat.double.leastExponent → 2 ^ 52 ≤ significand
  least : BinaryFormat.double.leastExponent ≤ exponent

/-- Two intervals that meet have a common end, and it belongs to both. -/
private theorem even_of_ordered {first second : RoundingInterval}
    (ordered : first.upperQuarters * first.quarter ≤ second.lowerQuarters * second.quarter)
    (firstCovers : first.Covers number) (secondCovers : second.Covers number) :
    first.significand % 2 = 0 ∧ second.significand % 2 = 0 ∧
      second.lowerQuarters * second.quarter ≤ first.upperQuarters * first.quarter := by
  refine ⟨?_, ?_, secondCovers.above.trans firstCovers.below⟩
  · by_contra odd
    have strict := (firstCovers.inside (by omega)).2
    linarith [secondCovers.above]
  · by_contra odd
    have strict := (secondCovers.inside (by omega)).1
    linarith [firstCovers.below]

theorem le_lowerQuarters (interval : RoundingInterval) :
    4 * interval.significand - 2 ≤ interval.lowerQuarters := by
  unfold lowerQuarters
  split <;> omega

private theorem not_covers_of_lt_significand (less : low < high)
    (lowCovers : (ofDouble low exponent).Covers number)
    (highCovers : (ofDouble high exponent).Covers number) : False := by
  have quarters : 4 * high - 2 ≤ (ofDouble high exponent).lowerQuarters :=
    le_lowerQuarters (ofDouble high exponent)
  have ordered : (ofDouble low exponent).upperQuarters * (ofDouble low exponent).quarter ≤
      (ofDouble high exponent).lowerQuarters * (ofDouble high exponent).quarter := by
    refine mul_le_mul_of_nonneg_right (Nat.cast_le.2 ?_) quarter_pos.le
    show 4 * low + 2 ≤ _
    omega
  obtain ⟨lowEven, highEven, meets⟩ := even_of_ordered ordered lowCovers highCovers
  have close : (ofDouble high exponent).lowerQuarters ≤ 4 * low + 2 :=
    Nat.cast_le.1 (le_of_mul_le_mul_right meets quarter_pos)
  have lowEven : low % 2 = 0 := lowEven
  have highEven : high % 2 = 0 := highEven
  omega

/-- Just above a power of two the lower end is half as far away. -/
private theorem le_lowerQuarters_of_full (full : 2 ^ 52 ≤ high)
    (above : BinaryFormat.double.leastExponent < exponent) :
    2 ^ 54 - 1 ≤ (ofDouble high exponent).lowerQuarters := by
  by_cases power : high = 2 ^ 52
  · simp [lowerQuarters, ofDouble, power, above]
  · have := le_lowerQuarters (ofDouble high exponent)
    have : 4 * high - 2 ≤ (ofDouble high exponent).lowerQuarters := this
    omega

private theorem not_covers_of_lt_exponent (lowNormal : Normalized low lowExponent)
    (highNormal : Normalized high highExponent) (less : lowExponent < highExponent)
    (lowCovers : (ofDouble low lowExponent).Covers number)
    (highCovers : (ofDouble high highExponent).Covers number) : False := by
  have above := lowNormal.least.trans_lt less
  have quarters := le_lowerQuarters_of_full (highNormal.full above.ne') above
  have bounded := lowNormal.bounded
  -- In units of the lower interval's quarter both ends are natural numbers.
  obtain ⟨gap, same⟩ := Int.eq_ofNat_of_zero_le (Int.sub_nonneg.2 less)
  have highEnd : (ofDouble high highExponent).lowerQuarters *
        (ofDouble high highExponent).quarter =
      ((ofDouble high highExponent).lowerQuarters * 2 ^ (gap + 1) : ℕ) *
        (ofDouble low lowExponent).quarter := by
    have scale : (ofDouble high highExponent).quarter =
        2 ^ (gap + 1) * (ofDouble low lowExponent).quarter := by
      simp only [quarter, ofDouble]
      rw [← zpow_natCast, ← zpow_add₀ (by norm_num)]
      congr 1
      omega
    rw [scale]
    push_cast
    ring
  have doubled : (2 ^ 54 - 1) * 2 ≤
      (ofDouble high highExponent).lowerQuarters * 2 ^ (gap + 1) :=
    Nat.mul_le_mul quarters (Nat.le_self_pow (Nat.succ_ne_zero gap) 2)
  have ordered : (ofDouble low lowExponent).upperQuarters * (ofDouble low lowExponent).quarter ≤
      (ofDouble high highExponent).lowerQuarters * (ofDouble high highExponent).quarter := by
    rw [highEnd]
    refine mul_le_mul_of_nonneg_right (Nat.cast_le.2 ?_) quarter_pos.le
    show 4 * low + 2 ≤ _
    omega
  obtain ⟨lowEven, -, meets⟩ := even_of_ordered ordered lowCovers highCovers
  rw [highEnd] at meets
  have close : (ofDouble high highExponent).lowerQuarters * 2 ^ (gap + 1) ≤ 4 * low + 2 :=
    Nat.cast_le.1 (le_of_mul_le_mul_right meets quarter_pos)
  have lowEven : low % 2 = 0 := lowEven
  omega

/-- A number lies in the interval of one positive double at most. -/
theorem normalized_unique (lowNormal : Normalized low lowExponent)
    (highNormal : Normalized high highExponent)
    (lowCovers : (ofDouble low lowExponent).Covers number)
    (highCovers : (ofDouble high highExponent).Covers number) :
    low = high ∧ lowExponent = highExponent := by
  rcases lt_trichotomy lowExponent highExponent with less | rfl | greater
  · exact (not_covers_of_lt_exponent lowNormal highNormal less lowCovers highCovers).elim
  · rcases lt_trichotomy low high with less | rfl | greater
    · exact (not_covers_of_lt_significand less lowCovers highCovers).elim
    · exact ⟨rfl, rfl⟩
    · exact (not_covers_of_lt_significand greater highCovers lowCovers).elim
  · exact (not_covers_of_lt_exponent highNormal lowNormal greater highCovers lowCovers).elim

end Disjoint

end RoundingInterval

/-- The shortest decimal of a positive double lies in the double's interval. -/
theorem covers_shortestDecimal (tie : Tie) {significand : Nat} (exponent : Int)
    (positive : 0 < significand) :
    (RoundingInterval.ofDouble significand exponent).Covers
      (shortestDecimal tie significand exponent).value := by
  simp only [shortestDecimal, Decimal.value_strip]
  cases found : (List.range 17).findSome? fun shorter =>
      (RoundingInterval.ofDouble significand exponent).candidate tie
        (RoundingInterval.ofDouble significand exponent).scale (shorter + 1) with
  | none =>
    rw [Option.getD_none, RoundingInterval.value_exact]
    exact RoundingInterval.covers_value positive
  | some decimal =>
    obtain ⟨shorter, _, candidate⟩ := List.exists_of_findSome?_eq_some found
    exact RoundingInterval.covers_of_candidate candidate

/-- The decimal that is written for a finite magnitude. -/
def Decimal.ofDouble (tie : Tie) (significand : Nat) (exponent : Int) : Decimal :=
  if significand = 0 then ⟨0, 0⟩ else shortestDecimal tie significand exponent

section Written

variable {tie : Tie} {significand : Nat} {exponent : Int}

theorem Decimal.value_ofDouble_zero (exponent : Int) :
    (Decimal.ofDouble tie 0 exponent).value = 0 := by
  simp [ofDouble, value]

theorem Decimal.value_ofDouble_pos (tie : Tie) (exponent : Int) (positive : 0 < significand) :
    0 < (Decimal.ofDouble tie significand exponent).value := by
  have covers := covers_shortestDecimal tie exponent positive
  have lower := RoundingInterval.le_lowerQuarters
    (RoundingInterval.ofDouble significand exponent)
  have quarters : 0 < (RoundingInterval.ofDouble significand exponent).lowerQuarters := by
    have : 4 * significand - 2 ≤
        (RoundingInterval.ofDouble significand exponent).lowerQuarters := lower
    omega
  rw [Decimal.ofDouble, if_neg positive.ne']
  exact (mul_pos (Nat.cast_pos.2 quarters) RoundingInterval.quarter_pos).trans_le covers.above

/-- Zero is written without an exponent. -/
theorem Decimal.plain_ofDouble (tie : Tie) (significand : Nat) (exponent : Int) :
    (Decimal.ofDouble tie significand exponent).digits ≠ 0 ∨
      (Decimal.ofDouble tie significand exponent).exponent = 0 := by
  rcases Nat.eq_zero_or_pos significand with rfl | positive
  · exact .inr rfl
  · refine .inl fun zero => ?_
    have value := Decimal.value_ofDouble_pos tie exponent positive
    rw [Decimal.value, zero, Nat.cast_zero, zero_mul] at value
    exact value.false

/-- The decimal of a finite magnitude tells it from all others. -/
theorem RoundingInterval.normalized_of_value_eq {first second : Nat}
    {firstExponent secondExponent : Int} (firstNormal : Normalized first firstExponent)
    (secondNormal : Normalized second secondExponent)
    (same : (Decimal.ofDouble tie first firstExponent).value =
      (Decimal.ofDouble tie second secondExponent).value) :
    first = second ∧ firstExponent = secondExponent := by
  rcases Nat.eq_zero_or_pos first with rfl | firstPositive
  · rcases Nat.eq_zero_or_pos second with rfl | secondPositive
    · have firstLeast := Not.imp_symm firstNormal.full (by decide)
      have secondLeast := Not.imp_symm secondNormal.full (by decide)
      exact ⟨rfl, firstLeast.trans secondLeast.symm⟩
    · have positive := Decimal.value_ofDouble_pos tie secondExponent secondPositive
      rw [← same, Decimal.value_ofDouble_zero] at positive
      exact positive.false.elim
  · rcases Nat.eq_zero_or_pos second with rfl | secondPositive
    · have positive := Decimal.value_ofDouble_pos tie firstExponent firstPositive
      rw [same, Decimal.value_ofDouble_zero] at positive
      exact positive.false.elim
    · rw [Decimal.ofDouble, if_neg firstPositive.ne', Decimal.ofDouble,
        if_neg secondPositive.ne'] at same
      have firstCovers := covers_shortestDecimal tie firstExponent firstPositive
      have secondCovers := covers_shortestDecimal tie secondExponent secondPositive
      rw [← same] at secondCovers
      exact normalized_unique firstNormal secondNormal firstCovers secondCovers

end Written

namespace Double

variable {x y : Double} {negative : Bool} {significand : Nat} {exponent : Int}

/-- A finite double's bits are its sign and its place among the doubles of that sign. -/
theorem finite_of_datum (finite : x.datum = .finite negative significand exponent) :
    RoundingInterval.Normalized significand exponent ∧
      x.bits.toNat = BinaryFormat.double.withSign negative
        ((exponent - BinaryFormat.double.leastExponent).toNat * 2 ^ 52 + significand) := by
  have bounded : x.bits.toNat < 2 ^ 64 := x.bits.toNat_lt
  have signWeight : BinaryFormat.double.signWeight = 2 ^ 63 := rfl
  have fractions : Nat.pow 2 BinaryFormat.double.fractionWidth = 2 ^ 52 := rfl
  have least : BinaryFormat.double.leastExponent = -1074 := rfl
  simp only [datum, BinaryFormat.decode, signWeight, fractions] at finite
  have signed (isNegative : decide (2 ^ 63 ≤ x.bits.toNat) = negative) :
      x.bits.toNat = BinaryFormat.double.withSign negative (x.bits.toNat % 2 ^ 63) := by
    subst isNegative
    by_cases large : 2 ^ 63 ≤ x.bits.toNat
    · simp only [BinaryFormat.withSign, large, signWeight]
      simp only [decide_true, if_true]
      omega
    · simp only [BinaryFormat.withSign, large]
      simp only [decide_false, Bool.false_eq_true, if_false]
      omega
  split at finite
  · cases finite
  split at finite
  · cases finite
  split at finite
  · next subnormal =>
    injection finite with sign fraction lowest
    refine ⟨⟨by omega, by omega, by omega⟩, ?_⟩
    rw [signed sign]
    congr 1
    omega
  · injection finite with sign fraction shifted
    refine ⟨⟨by omega, by omega, by omega⟩, ?_⟩
    rw [signed sign]
    congr 1
    omega

/-- Finite doubles of one sign, significand and exponent are the same. -/
theorem eq_of_datum (first : x.datum = .finite negative significand exponent)
    (second : y.datum = .finite negative significand exponent) : x = y := by
  have bits : x.bits = y.bits :=
    UInt64.toNat.inj ((finite_of_datum first).2.trans (finite_of_datum second).2.symm)
  cases x
  cases y
  exact congrArg mk bits

end Double

end SqlWright
