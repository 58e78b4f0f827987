import SqlWright.Number.Shortest
/-! Reading numbers from text. Integers are an optional sign and ASCII digits within a
range; floating-point numbers may also have a point, an exponent, or be one of the words
for infinity and not-a-number. -/
namespace SqlWright

/-- Why a text or an integer is no integer of the wanted range. -/
inductive IntegerFault where
  | empty
  | invalidDigit
  | tooLarge
  | tooSmall
  deriving DecidableEq

def IntegerFault.message : IntegerFault → String
  | .empty => "cannot parse integer from empty string"
  | .invalidDigit => "invalid digit found in string"
  | .tooLarge => "number too large to fit in target type"
  | .tooSmall => "number too small to fit in target type"

/-- Why a text is no floating-point number. -/
inductive FloatFault where
  | empty
  | invalid
  deriving DecidableEq

def FloatFault.message : FloatFault → String
  | .empty => "cannot parse float from empty string"
  | .invalid => "invalid float literal"

/-- The integers from `low` to `high`. -/
structure IntegerRange where
  low : Int
  high : Int
  deriving DecidableEq

namespace IntegerRange

/-- The integers with a two's complement form of this many bits. -/
def signed (width : Nat) : IntegerRange := ⟨-(Nat.pow 2 (width - 1)), Nat.pow 2 (width - 1) - 1⟩

def check (range : IntegerRange) (n : Int) : Except IntegerFault Int :=
  if range.high < n then .error .tooLarge
  else if n < range.low then .error .tooSmall
  else .ok n

end IntegerRange

/-- The value of an ASCII digit. -/
def digitValue (c : Char) : Nat := c.toNat - '0'.toNat

/-- Read the digits from the left, each with this sign. Leaving the range is noticed at the
digit that leaves it, before any later character is looked at. -/
def readDigits (range : IntegerRange) (sign : Int) : Int → List Char → Except IntegerFault Int
  | value, [] => .ok value
  | value, c :: rest =>
    if c.isDigit then do
      readDigits range sign (← range.check (value * 10 + sign * digitValue c)) rest
    else .error .invalidDigit

def readInteger (range : IntegerRange) (text : String) : Except IntegerFault Int :=
  match text.toList with
  | [] => .error .empty
  | ['+'] => .error .invalidDigit
  | ['-'] => .error .invalidDigit
  | '+' :: digits => readDigits range 1 0 digits
  | '-' :: digits => readDigits range (-1) 0 digits
  | digits => readDigits range 1 0 digits

def naturalOfDigits (digits : List Char) : Nat :=
  digits.foldl (fun value c => value * 10 + digitValue c) 0

/-- What the text of a floating-point number says, before it is rounded to a format. -/
inductive FloatText where
  | decimal (negative : Bool) (magnitude : Decimal)
  | infinite (negative : Bool)
  | notANumber (negative : Bool)
  deriving DecidableEq

/-- A mark, an optional sign and digits; anything else is no exponent. -/
def readExponent : List Char → Option Int
  | [] => some 0
  | mark :: rest =>
    if mark ≠ 'e' ∧ mark ≠ 'E' then none
    else
      let (negative, digits) := match rest with
        | '-' :: digits => (true, digits)
        | '+' :: digits => (false, digits)
        | digits => (false, digits)
      if digits ≠ [] ∧ digits.all Char.isDigit then
        some (if negative then -(naturalOfDigits digits : Int) else naturalOfDigits digits)
      else none

/-- Digits with an optional point and exponent; there is a digit before or after the point. -/
def readMagnitude (text : List Char) : Option Decimal :=
  let whole := text.takeWhile Char.isDigit
  let (fraction, rest) := match text.dropWhile Char.isDigit with
    | '.' :: rest => (rest.takeWhile Char.isDigit, rest.dropWhile Char.isDigit)
    | rest => ([], rest)
  if whole.isEmpty ∧ fraction.isEmpty then none
  else (readExponent rest).map fun exponent =>
    ⟨naturalOfDigits (whole ++ fraction), exponent - fraction.length⟩

private def lowerAscii (text : List Char) : String := String.ofList (text.map Char.toLower)

private def readUnsignedFloat (negative : Bool) (text : List Char) : Except FloatFault FloatText :=
  match readMagnitude text with
  | some magnitude => .ok (.decimal negative magnitude)
  | none =>
    let word := lowerAscii text
    if word = "inf" ∨ word = "infinity" then .ok (.infinite negative)
    else if word = "nan" then .ok (.notANumber negative)
    else .error .invalid

def readFloat (text : String) : Except FloatFault FloatText :=
  match text.toList with
  | [] => .error .empty
  | '-' :: rest => readUnsignedFloat true rest
  | '+' :: rest => readUnsignedFloat false rest
  | rest => readUnsignedFloat false rest

/-- The ratio of a decimal that is neither far above nor far below every double: beyond
`10 ^ 310` all formats round to infinity and below `10 ^ -330` to zero. -/
inductive DecimalSize where
  | vanishing
  | moderate (numerator denominator : Nat)
  | overflowing

def Decimal.size (decimal : Decimal) : DecimalSize :=
  let top := (Nat.toDigits 10 decimal.digits).length + decimal.exponent
  if decimal.digits = 0 ∨ top < -330 then .vanishing
  else if 310 < top then .overflowing
  else .moderate (decimal.digits * Nat.pow 10 decimal.exponent.toNat)
    (Nat.pow 10 (-decimal.exponent).toNat)

def Double.ofDecimal (negative : Bool) (decimal : Decimal) : Double :=
  match decimal.size with
  | .vanishing => .ofPattern negative 0
  | .moderate numerator denominator => .ofRatio negative numerator denominator
  | .overflowing => .infinity negative

def Single.ofDecimal (negative : Bool) (decimal : Decimal) : Single :=
  match decimal.size with
  | .vanishing => .ofPattern negative 0
  | .moderate numerator denominator => .ofRatio negative numerator denominator
  | .overflowing => .infinity negative

def Double.read (text : String) : Except FloatFault Double :=
  (readFloat text).map fun
    | .decimal negative magnitude => .ofDecimal negative magnitude
    | .infinite negative => .infinity negative
    | .notANumber negative => .quiet negative

def Single.read (text : String) : Except FloatFault Single :=
  (readFloat text).map fun
    | .decimal negative magnitude => .ofDecimal negative magnitude
    | .infinite negative => .infinity negative
    | .notANumber negative => .quiet negative

end SqlWright
