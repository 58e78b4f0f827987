import SqlWright.Bytes
import SqlWright.Number.Numeral
import SqlWright.Value
import SqlWright.Failure
/-! Scalars in the binary form of Postgres parameters and columns. -/
namespace SqlWright.Postgres

inductive ColumnType where
  | bool
  | int2
  | int4
  | int8
  | float4
  | float8
  | text
  | varchar
  | bpchar
  | name
  | unknown
  /-- Any other type; its values are neither bound nor read. -/
  | other (typeName : String)
  deriving DecidableEq

namespace ColumnType

def typeName : ColumnType → String
  | .bool => "bool"
  | .int2 => "int2"
  | .int4 => "int4"
  | .int8 => "int8"
  | .float4 => "float4"
  | .float8 => "float8"
  | .text => "text"
  | .varchar => "varchar"
  | .bpchar => "bpchar"
  | .name => "name"
  | .unknown => "unknown"
  | .other typeName => typeName

private def known : List ColumnType :=
  [.bool, .int2, .int4, .int8, .float4, .float8, .text, .varchar, .bpchar, .name, .unknown]

def ofTypeName (typeName : String) : ColumnType :=
  (known.find? fun type => type.typeName = typeName).getD (.other typeName)

/-- Whether scalars can be bound to a type and read from it. -/
def isSupported : ColumnType → Bool
  | .other _ => false
  | _ => true

end ColumnType

/-- Why a scalar cannot be bound to a parameter. -/
inductive BindFault where
  | unsupported (type : ColumnType)
  | floatAs (x : Double) (type : ColumnType)
  | integer (fault : IntegerFault)
  | float (fault : FloatFault)
  | boolean
  deriving DecidableEq

def BindFault.message : BindFault → String
  | .unsupported type =>
    "cannot convert between the Rust type `sqlstmt::value::Value` and the Postgres type `"
      ++ type.typeName ++ "`"
  | .floatAs x type =>
    "cannot bind float " ++ NumberLayout.literal.write x ++ " as " ++ type.typeName
  | .integer fault => fault.message
  | .float fault => fault.message
  | .boolean => "provided string was not `true` or `false`"

/-- The two's complement form of an integer in so many bytes. -/
def encodeInteger (width : Nat) (n : Int) : List UInt8 :=
  bigEndian width (n % Nat.pow 256 width).toNat

/-- The integer with this two's complement form. -/
def decodeInteger (bytes : List UInt8) : Int :=
  let n := naturalOfBytes bytes
  if 2 * n < Nat.pow 256 bytes.length then n else n - Nat.pow 256 bytes.length

def encodeBool (b : Bool) : List UInt8 := [if b then 1 else 0]

def encodeSingle (x : Single) : List UInt8 := bigEndian 4 x.bits.toNat

def encodeDouble (x : Double) : List UInt8 := bigEndian 8 x.bits.toNat

/-- An integer for an integer column of so many bytes, if it fits. -/
def encodeFitting (width : Nat) (n : Int) : Except BindFault (List UInt8) :=
  match (IntegerRange.signed (8 * width)).check n with
  | .ok n => .ok (encodeInteger width n)
  | .error fault => .error (.integer fault)

def encodeInt (type : ColumnType) (n : Int) : Except BindFault (List UInt8) :=
  match type with
  | .int2 => encodeFitting 2 n
  | .int4 => encodeFitting 4 n
  | .int8 => encodeFitting 8 n
  | .float4 => .ok (encodeSingle (.ofInt n))
  | .float8 => .ok (encodeDouble (.ofInt n))
  | .bool => .ok (encodeBool (n != 0))
  | _ => .ok (bytesOfText (toString n))

def encodeFloat (type : ColumnType) (x : Double) : Except BindFault (List UInt8) :=
  match type with
  | .float4 => .ok (encodeSingle (.ofDouble x))
  | .float8 => .ok (encodeDouble x)
  | .int2 | .int4 | .int8 | .bool => .error (.floatAs x type)
  | _ => .ok (bytesOfText (NumberLayout.literal.write x))

/-- A text for an integer column of so many bytes: a decimal number that fits. -/
def encodeNumeral (width : Nat) (s : String) : Except BindFault (List UInt8) :=
  match readInteger (.signed (8 * width)) s with
  | .ok n => .ok (encodeInteger width n)
  | .error fault => .error (.integer fault)

def encodeText (type : ColumnType) (s : String) : Except BindFault (List UInt8) :=
  match type with
  | .int2 => encodeNumeral 2 s
  | .int4 => encodeNumeral 4 s
  | .int8 => encodeNumeral 8 s
  | .float4 => match Single.read s with
    | .ok x => .ok (encodeSingle x)
    | .error fault => .error (.float fault)
  | .float8 => match Double.read s with
    | .ok x => .ok (encodeDouble x)
    | .error fault => .error (.float fault)
  | .bool =>
    if s = "true" then .ok (encodeBool true)
    else if s = "false" then .ok (encodeBool false)
    else .error .boolean
  | _ => .ok (bytesOfText s)

/-- The bytes of a scalar for a parameter of a supported type; null has none. -/
def encodeValue (type : ColumnType) : Value → Except BindFault (Option (List UInt8))
  | .null => .ok none
  | .bool b =>
    if type = .bool then .ok (some (encodeBool b))
    else (encodeInt type (if b then 1 else 0)).map some
  | .int n => (encodeInt type n.toInt).map some
  | .float x => (encodeFloat type x).map some
  | .text s => (encodeText type s).map some

/-- The bytes of a scalar, if the type is supported at all. -/
def encode (type : ColumnType) (value : Value) : Except BindFault (Option (List UInt8)) :=
  if type.isSupported then encodeValue type value else .error (.unsupported type)

private def ofLength (width : Nat) (bytes : List UInt8) (value : Value) : Option Value :=
  if bytes.length = width then some value else none

/-- The scalar that the bytes of a column of a supported type stand for. -/
def decodeBytes? (type : ColumnType) (bytes : List UInt8) : Option Value :=
  match type with
  | .bool => ofLength 1 bytes (.bool (naturalOfBytes bytes != 0))
  | .int2 => ofLength 2 bytes (.int (Int64.ofInt (decodeInteger bytes)))
  | .int4 => ofLength 4 bytes (.int (Int64.ofInt (decodeInteger bytes)))
  | .int8 => ofLength 8 bytes (.int (Int64.ofInt (decodeInteger bytes)))
  | .float4 => ofLength 4 bytes (.float (.ofSingle ⟨UInt32.ofNat (naturalOfBytes bytes)⟩))
  | .float8 => ofLength 8 bytes (.float ⟨UInt64.ofNat (naturalOfBytes bytes)⟩)
  | .text | .varchar | .bpchar | .name | .unknown => (textOfBytes? bytes).map .text
  | .other _ => none

/-- A column of a row. -/
structure Column where
  name : String
  type : ColumnType
  deriving DecidableEq

/-- What the client library says of a cell that does not fit its type. -/
def misfit (index : Nat) : String := s!"error deserializing column {index}"

/-- One cell of a row. An unsupported type is an error even where the cell is null. -/
def decodeCell (column : Column) (index : Nat) (cell : Option (List UInt8)) :
    Except Failure Value :=
  if column.type.isSupported then
    match cell with
    | none => .ok .null
    | some bytes => match decodeBytes? column.type bytes with
      | some value => .ok value
      | none => .error (.driver (.undecodable column.name (misfit index)))
  else
    .error (.driver (.undecodable column.name
      ("unsupported column type " ++ column.type.typeName)))

end SqlWright.Postgres
