/-! Binary floating-point data as bit patterns. A pattern is decoded into an exact
significand and power of two, and an exact ratio is rounded back to the nearest
pattern, ties to the even one; nothing here uses machine arithmetic. -/
namespace SqlWright

/-- The field widths of a binary interchange format. -/
structure BinaryFormat where
  fractionWidth : Nat
  exponentWidth : Nat
  deriving DecidableEq

namespace BinaryFormat

def double : BinaryFormat := ⟨52, 11⟩

def single : BinaryFormat := ⟨23, 8⟩

/-- The weight of the lowest bit of the smallest values, as a power of two. -/
def leastExponent (format : BinaryFormat) : Int :=
  2 - Nat.pow 2 (format.exponentWidth - 1) - format.fractionWidth

/-- The pattern of positive infinity: every exponent bit set, no fraction. -/
def infinityPattern (format : BinaryFormat) : Nat :=
  (Nat.pow 2 format.exponentWidth - 1) * Nat.pow 2 format.fractionWidth

/-- The weight of the sign bit. -/
def signWeight (format : BinaryFormat) : Nat :=
  Nat.pow 2 (format.fractionWidth + format.exponentWidth)

def withSign (format : BinaryFormat) (negative : Bool) (pattern : Nat) : Nat :=
  if negative then format.signWeight + pattern else pattern

end BinaryFormat

/-- What a bit pattern stands for. A finite datum is `significand * 2 ^ exponent`. -/
inductive Datum where
  | finite (negative : Bool) (significand : Nat) (exponent : Int)
  | infinite (negative : Bool)
  | notANumber (negative : Bool) (payload : Nat)
  deriving DecidableEq

/-- The quotient of two naturals, rounded to the nearest natural and a half to the even one. -/
def roundHalfEven (numerator denominator : Nat) : Nat :=
  let quotient := numerator / denominator
  let twice := 2 * (numerator % denominator)
  if twice < denominator then quotient
  else if denominator < twice then quotient + 1
  else quotient + quotient % 2

/-- The greatest `k` with `2 ^ k ≤ numerator / denominator`, for positive arguments. -/
def floorLog2 (numerator denominator : Nat) : Int :=
  let estimate : Int := (Nat.log2 numerator : Int) - Nat.log2 denominator
  if denominator * Nat.pow 2 estimate.toNat ≤ numerator * Nat.pow 2 (-estimate).toNat then
    estimate
  else estimate - 1

namespace BinaryFormat

def decode (format : BinaryFormat) (pattern : Nat) : Datum :=
  let negative := decide (format.signWeight ≤ pattern)
  let magnitude := pattern % format.signWeight
  let fraction := magnitude % Nat.pow 2 format.fractionWidth
  let biased := magnitude / Nat.pow 2 format.fractionWidth
  if format.infinityPattern < magnitude then .notANumber negative fraction
  else if magnitude = format.infinityPattern then .infinite negative
  else if biased = 0 then .finite negative fraction format.leastExponent
  else .finite negative (Nat.pow 2 format.fractionWidth + fraction)
    (format.leastExponent + (biased : Int) - 1)

/-- The pattern nearest to an exact positive ratio; from half a step beyond the greatest
finite value on, infinity. Consecutive patterns are consecutive values, so a significand
that rounds up into the next binade needs no case of its own. -/
def nearest (format : BinaryFormat) (numerator denominator : Nat) : Nat :=
  if numerator = 0 then 0
  else
    let step := max format.leastExponent (floorLog2 numerator denominator - format.fractionWidth)
    let significand :=
      roundHalfEven (numerator * Nat.pow 2 (-step).toNat) (denominator * Nat.pow 2 step.toNat)
    min format.infinityPattern
      ((step - format.leastExponent).toNat * Nat.pow 2 format.fractionWidth + significand)

end BinaryFormat

/-- A double-precision datum, identified with its 64 bits. -/
structure Double where
  bits : UInt64
  deriving DecidableEq

/-- A single-precision datum, identified with its 32 bits. -/
structure Single where
  bits : UInt32
  deriving DecidableEq

def Double.datum (x : Double) : Datum := BinaryFormat.double.decode x.bits.toNat

def Single.datum (x : Single) : Datum := BinaryFormat.single.decode x.bits.toNat

/-- The magnitude of a finite datum as a ratio. -/
def Datum.ratio : Datum → Option (Nat × Nat)
  | .finite _ significand exponent =>
    some (significand * Nat.pow 2 exponent.toNat, Nat.pow 2 (-exponent).toNat)
  | _ => none

def Datum.isNegative : Datum → Bool
  | .finite negative _ _ => negative
  | .infinite negative => negative
  | .notANumber negative _ => negative

def Datum.isFinite : Datum → Bool
  | .finite .. => true
  | _ => false

namespace Double

def ofPattern (negative : Bool) (pattern : Nat) : Double :=
  ⟨UInt64.ofNat (BinaryFormat.double.withSign negative pattern)⟩

/-- The double nearest to an exact ratio. -/
def ofRatio (negative : Bool) (numerator denominator : Nat) : Double :=
  ofPattern negative (BinaryFormat.double.nearest numerator denominator)

def infinity (negative : Bool) : Double :=
  ofPattern negative BinaryFormat.double.infinityPattern

/-- The quiet not-a-number without payload. -/
def quiet (negative : Bool) : Double :=
  ofPattern negative (BinaryFormat.double.infinityPattern + Nat.pow 2 51)

def ofInt (n : Int) : Double := ofRatio (decide (n < 0)) n.natAbs 1

def isFinite (x : Double) : Bool := x.datum.isFinite

/-- The same magnitude with the other sign. -/
def negate (x : Double) : Double := ⟨x.bits ^^^ 0x8000000000000000⟩

/-- The same number in the wider format; a payload keeps its leading bits and becomes quiet. -/
def ofSingle (x : Single) : Double :=
  match x.datum with
  | .finite negative significand exponent =>
    ofRatio negative (significand * Nat.pow 2 exponent.toNat) (Nat.pow 2 (-exponent).toNat)
  | .infinite negative => infinity negative
  | .notANumber negative payload =>
    ofPattern negative
      (BinaryFormat.double.infinityPattern + Nat.pow 2 51
        + payload % Nat.pow 2 22 * Nat.pow 2 29)

end Double

namespace Single

def ofPattern (negative : Bool) (pattern : Nat) : Single :=
  ⟨UInt32.ofNat (BinaryFormat.single.withSign negative pattern)⟩

/-- The single nearest to an exact ratio. -/
def ofRatio (negative : Bool) (numerator denominator : Nat) : Single :=
  ofPattern negative (BinaryFormat.single.nearest numerator denominator)

def infinity (negative : Bool) : Single :=
  ofPattern negative BinaryFormat.single.infinityPattern

/-- The quiet not-a-number without payload. -/
def quiet (negative : Bool) : Single :=
  ofPattern negative (BinaryFormat.single.infinityPattern + Nat.pow 2 22)

def ofInt (n : Int) : Single := ofRatio (decide (n < 0)) n.natAbs 1

/-- The nearest number of the narrower format; a payload keeps its leading bits and
becomes quiet. -/
def ofDouble (x : Double) : Single :=
  match x.datum with
  | .finite negative significand exponent =>
    ofRatio negative (significand * Nat.pow 2 exponent.toNat) (Nat.pow 2 (-exponent).toNat)
  | .infinite negative => infinity negative
  | .notANumber negative payload =>
    ofPattern negative
      (BinaryFormat.single.infinityPattern + Nat.pow 2 22
        + payload % Nat.pow 2 51 / Nat.pow 2 29)

end Single

end SqlWright
