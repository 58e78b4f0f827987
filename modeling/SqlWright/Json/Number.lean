import SqlWright.Number.Numeral
/-! Numbers in JSON text, and the double that a number stands for: the leading digits that
fit 64 bits are rounded once, then multiplied or divided by the rounded power of ten. -/
namespace SqlWright.Json

/-- A number as it is written: sign, digits before and after the point, exponent. -/
structure Number where
  negative : Bool
  whole : List Char
  fraction : List Char
  exponent : Option Int
  deriving DecidableEq

namespace Number

/-- Digits of an exponent with their sign. -/
def exponentDigits (negative : Bool) (text : List Char) : Option (Int × List Char) :=
  let digits := text.takeWhile Char.isDigit
  if digits.isEmpty then none
  else
    let magnitude : Int := naturalOfDigits digits
    some (if negative then -magnitude else magnitude, text.dropWhile Char.isDigit)

def exponentPart : List Char → Option (Option Int × List Char)
  | mark :: rest =>
    if mark = 'e' ∨ mark = 'E' then
      (match rest with
        | '+' :: digits => exponentDigits false digits
        | '-' :: digits => exponentDigits true digits
        | digits => exponentDigits false digits).map fun (exponent, rest) => (some exponent, rest)
    else some (none, mark :: rest)
  | [] => some (none, [])

/-- Digits after a point; a point without digits is no number. -/
def fractionPart : List Char → Option (List Char × List Char)
  | '.' :: rest =>
    let digits := rest.takeWhile Char.isDigit
    if digits.isEmpty then none else some (digits, rest.dropWhile Char.isDigit)
  | rest => some ([], rest)

/-- A single zero, or digits that do not start with one. -/
def wholePart : List Char → Option (List Char × List Char)
  | '0' :: rest => some (['0'], rest)
  | text =>
    let digits := text.takeWhile Char.isDigit
    if digits.isEmpty then none else some (digits, text.dropWhile Char.isDigit)

/-- Read a number at the start of a text. -/
def read (text : List Char) : Option (Number × List Char) := do
  let (negative, unsigned) := match text with
    | '-' :: rest => (true, rest)
    | rest => (false, rest)
  let (whole, rest) ← wholePart unsigned
  let (fraction, rest) ← fractionPart rest
  let (exponent, rest) ← exponentPart rest
  pure (⟨negative, whole, fraction, exponent⟩, rest)

def isInteger (number : Number) : Bool := number.fraction.isEmpty && number.exponent.isNone

/-- The value of a number without point and exponent. -/
def integer? (number : Number) : Option Int :=
  if number.isInteger then
    let magnitude : Int := naturalOfDigits number.whole
    some (if number.negative then -magnitude else magnitude)
  else none

/-- Take digits into a significand below `2 ^ 64` as long as they fit, and return those
that are left. -/
def takeDigits : Nat → List Char → Nat × List Char
  | significand, [] => (significand, [])
  | significand, c :: rest =>
    let next := significand * 10 + digitValue c
    if next < UInt64.size then takeDigits next rest else (significand, c :: rest)

/-- A double multiplied by another, both finite. -/
def times (x y : Double) : Double :=
  match x.datum.ratio, y.datum.ratio with
  | some (n₁, d₁), some (n₂, d₂) => .ofRatio false (n₁ * n₂) (d₁ * d₂)
  | _, _ => x

def dividedBy (x y : Double) : Double :=
  match x.datum.ratio, y.datum.ratio with
  | some (n₁, d₁), some (n₂, d₂) => .ofRatio false (n₁ * d₂) (d₁ * n₂)
  | _, _ => x

def powerOfTen (exponent : Nat) : Double := .ofRatio false (Nat.pow 10 exponent) 1

/-- Scale a non-negative double by a power of ten of at most 308, in steps of 308 where
the exponent is smaller still; three steps bring every significand down to zero. -/
def scale : Nat → Double → Int → Option Double
  | steps, x, exponent =>
    if exponent.natAbs ≤ 308 then
      if 0 ≤ exponent then
        let scaled := times x (powerOfTen exponent.toNat)
        if scaled.isFinite then some scaled else none
      else some (dividedBy x (powerOfTen exponent.natAbs))
    else if x.bits = 0 then some x
    else if 0 ≤ exponent then none
    else match steps with
      | 0 => some (.ofPattern false 0)
      | steps + 1 => scale steps (dividedBy x (powerOfTen 308)) (exponent + 308)

/-- The double that a number stands for; none if it exceeds them all. -/
def double? (number : Number) : Option Double :=
  let (leading, unread) := takeDigits 0 number.whole
  let (significand, rest) := takeDigits leading number.fraction
  let exponent : Int := unread.length - (number.fraction.length - rest.length : Nat)
    + number.exponent.getD 0
  (scale 3 (.ofInt significand) exponent).map fun x =>
    if number.negative then x.negate else x

end Number

end SqlWright.Json
