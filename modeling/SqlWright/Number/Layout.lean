import SqlWright.Number.Shortest
/-! How a double is written: which exponents are written positionally, whether a whole
number keeps a point, and the texts of the values that are no numbers. -/
namespace SqlWright

/-- The decisions of one written form of doubles. -/
structure NumberLayout where
  tie : Tie
  /-- The exponents of the leading digit that are written positionally; all of them if absent. -/
  positional : Option (Int × Int)
  /-- Whole numbers end in a point and a zero. -/
  pointZero : Bool
  notANumber : String
  infinity : String
  negativeInfinity : String

namespace NumberLayout

/-- SQL literals and text columns never use an exponent and write whole numbers bare. -/
def literal : NumberLayout where
  tie := .upward
  positional := none
  pointZero := false
  notANumber := "NaN"
  infinity := "inf"
  negativeInfinity := "-inf"

/-- JSON keeps a point or an exponent in every double and has no word for the rest. -/
def json : NumberLayout where
  tie := .toEven
  positional := some (-5, 15)
  pointZero := true
  notANumber := "null"
  infinity := "null"
  negativeInfinity := "null"

def zeros (count : Nat) : List Char := List.replicate count '0'

/-- Digits with the point after, inside or before them. -/
def positionalText (layout : NumberLayout) (digits : List Char) (exponent : Int) : List Char :=
  let leading := exponent + digits.length - 1
  if 0 ≤ exponent then
    digits ++ zeros exponent.toNat ++ (if layout.pointZero then ['.', '0'] else [])
  else if 0 ≤ leading then
    digits.take (leading.toNat + 1) ++ '.' :: digits.drop (leading.toNat + 1)
  else '0' :: '.' :: zeros (-leading - 1).toNat ++ digits

/-- One digit, the others after a point, and a signed exponent. -/
def exponentText (digits : List Char) (leading : Int) : List Char :=
  let fraction := digits.drop 1
  digits.take 1 ++ (if fraction.isEmpty then [] else '.' :: fraction) ++
    'e' :: (if leading < 0 then '-' else '+') :: Nat.toDigits 10 leading.natAbs

def decimalText (layout : NumberLayout) (decimal : Decimal) : List Char :=
  let digits := Nat.toDigits 10 decimal.digits
  let leading := decimal.exponent + digits.length - 1
  match layout.positional with
  | none => layout.positionalText digits decimal.exponent
  | some (low, high) =>
    if low ≤ leading ∧ leading ≤ high then layout.positionalText digits decimal.exponent
    else exponentText digits leading

/-- The text of a double. Zero keeps its sign. -/
def write (layout : NumberLayout) (x : Double) : String :=
  match x.datum with
  | .notANumber .. => layout.notANumber
  | .infinite negative => if negative then layout.negativeInfinity else layout.infinity
  | .finite negative significand exponent =>
    let decimal := if significand = 0 then ⟨0, 0⟩
      else shortestDecimal layout.tie significand exponent
    String.ofList ((if negative then ['-'] else []) ++ layout.decimalText decimal)

end NumberLayout

end SqlWright
