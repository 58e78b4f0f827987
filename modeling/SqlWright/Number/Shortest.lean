import SqlWright.Number.Binary
/-! The fewest decimal digits that read back as a given double. Candidates of one
length are the two neighbours of the value on that decimal grid; the first grid with
a candidate that reads back wins, and the nearer of two candidates is taken. -/
namespace SqlWright

/-- The number `digits * 10 ^ exponent`. -/
structure Decimal where
  digits : Nat
  exponent : Int
  deriving DecidableEq

/-- Which of two equally near candidates is taken. -/
inductive Tie where
  | upward
  | toEven
  deriving DecidableEq

/-- A positive value `significand * 2 ^ exponent` together with the shape of the interval
that rounds to it: below a power of two the lower gap is half as wide. -/
structure RoundingInterval where
  significand : Nat
  exponent : Int
  narrowBelow : Bool

namespace RoundingInterval

/-- The interval of the finite double with this significand and exponent. -/
def ofDouble (significand : Nat) (exponent : Int) : RoundingInterval :=
  ⟨significand, exponent,
    decide (significand = Nat.pow 2 52) && decide (BinaryFormat.double.leastExponent < exponent)⟩

/-- Compare `digits * 10 ^ tens` with `quarters * 2 ^ twos` exactly. -/
def compareScaled (digits : Nat) (tens : Int) (quarters : Nat) (twos : Int) : Ordering :=
  compare (digits * Nat.pow 10 tens.toNat * Nat.pow 2 (-twos).toNat)
    (quarters * Nat.pow 2 twos.toNat * Nat.pow 10 (-tens).toNat)

/-- A decimal reads back when it lies between the two half-way points; these belong to the
interval exactly when the significand is even. -/
def contains (interval : RoundingInterval) (decimal : Decimal) : Bool :=
  let lower := if interval.narrowBelow then 4 * interval.significand - 1
    else 4 * interval.significand - 2
  let upper := 4 * interval.significand + 2
  let closed := interval.significand % 2 == 0
  let atLower := compareScaled decimal.digits decimal.exponent lower (interval.exponent - 2)
  let atUpper := compareScaled decimal.digits decimal.exponent upper (interval.exponent - 2)
  (atLower == .gt || (closed && atLower == .eq)) && (atUpper == .lt || (closed && atUpper == .eq))

/-- The least `k` with value below `10 ^ k`, found next to an estimate from the binary scale. -/
def scale (interval : RoundingInterval) : Int :=
  let binary : Int := Nat.log2 interval.significand + interval.exponent
  let estimate := binary * 30103 / 100000
  let below (k : Int) : Bool :=
    compareScaled 1 k interval.significand interval.exponent == .gt
  if below estimate then estimate
  else if below (estimate + 1) then estimate + 1
  else estimate + 2

/-- The candidate of a given number of digits, if one of the two neighbours reads back. -/
def candidate (interval : RoundingInterval) (tie : Tie) (scale : Int) (length : Nat) :
    Option Decimal :=
  let grid := scale - length
  let numerator :=
    interval.significand * Nat.pow 2 interval.exponent.toNat * Nat.pow 10 (-grid).toNat
  let denominator := Nat.pow 2 (-interval.exponent).toNat * Nat.pow 10 grid.toNat
  let lower : Decimal := ⟨numerator / denominator, grid⟩
  let upper : Decimal := ⟨numerator / denominator + 1, grid⟩
  match interval.contains lower, interval.contains upper with
  | false, false => none
  | true, false => some lower
  | false, true => some upper
  | true, true =>
    match compare (2 * (numerator % denominator)) denominator, tie with
    | .lt, _ => some lower
    | .gt, _ => some upper
    | .eq, .upward => some upper
    | .eq, .toEven => some (if lower.digits % 2 == 0 then lower else upper)

/-- The value itself as a decimal; every binary value has one. -/
def exact (interval : RoundingInterval) : Decimal :=
  if interval.exponent ≥ 0 then ⟨interval.significand * Nat.pow 2 interval.exponent.toNat, 0⟩
  else ⟨interval.significand * Nat.pow 5 (-interval.exponent).toNat, interval.exponent⟩

end RoundingInterval

/-- Move trailing zeros of the digits into the exponent, at most `fuel` of them. -/
def Decimal.strip : Nat → Decimal → Decimal
  | 0, decimal => decimal
  | fuel + 1, decimal =>
    if decimal.digits ≠ 0 ∧ decimal.digits % 10 = 0
    then strip fuel ⟨decimal.digits / 10, decimal.exponent + 1⟩
    else decimal

/-- The shortest decimal that reads back as `significand * 2 ^ exponent`, for a positive
double; seventeen digits suffice. -/
def shortestDecimal (tie : Tie) (significand : Nat) (exponent : Int) : Decimal :=
  let interval := RoundingInterval.ofDouble significand exponent
  let scale := interval.scale
  let found := (List.range 17).findSome? fun shorter => interval.candidate tie scale (shorter + 1)
  (found.getD interval.exact).strip 20

end SqlWright
