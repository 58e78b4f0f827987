import SqlWright.Value
import SqlWright.Failure
/-! What a statement returns: column names, rows of scalars, and the number of rows it
changed. A record is one row with its column names. -/
namespace SqlWright

structure ResultSet where
  columns : List String := []
  rows : List (List Value) := []
  affected : UInt64 := 0
  deriving DecidableEq

structure Record where
  columns : List String
  values : List Value
  deriving DecidableEq

/-- A record as named members, in the order their names first appear. -/
abbrev RecordObject := List (String × Value)

namespace Record

/-- The value under the first column of this name, if the row is long enough. -/
def get? (record : Record) (column : String) : Option Value :=
  (record.columns.findIdx? (· = column)).bind fun index => record.values[index]?

def getIndex? (record : Record) (index : Nat) : Option Value := record.values[index]?

/-- Put a member under a name, in place of an earlier one of that name. -/
def putMember (object : RecordObject) (name : String) (value : Value) : RecordObject :=
  match object with
  | [] => [(name, value)]
  | first :: rest =>
    if first.1 = name then (name, value) :: rest else first :: putMember rest name value

/-- A value as a member of an object: a double that is no number becomes null. -/
def memberValue : Value → Value
  | .float x => if x.isFinite then .float x else .null
  | value => value

/-- Columns paired with values as far as both reach; of equal names the last one counts. -/
def object (record : Record) : RecordObject :=
  (record.columns.zip record.values).foldl
    (fun object member => putMember object member.1 (memberValue member.2)) []

end Record

namespace ResultSet

def size (result : ResultSet) : Nat := result.rows.length

def record? (result : ResultSet) (index : Nat) : Option Record :=
  (result.rows[index]?).map fun values => ⟨result.columns, values⟩

def records (result : ResultSet) : List Record :=
  result.rows.map fun values => ⟨result.columns, values⟩

/-- The value of a column in the first row. -/
def firstColumn? (result : ResultSet) (column : Nat) : Option Value :=
  result.rows.head?.bind fun row => row[column]?

end ResultSet

namespace RecordObject

def member? (object : RecordObject) (name : String) : Option Value :=
  (object.find? fun member => member.1 = name).map (·.2)

private def mismatch (name expected : String) : Failure :=
  .serialization s!"field '{name}' is not {expected}"

def int (object : RecordObject) (name : String) : Except Failure Int64 :=
  match object.member? name with
  | some (.int n) => .ok n
  | _ => .error (mismatch name "an integer")

def text (object : RecordObject) (name : String) : Except Failure String :=
  match object.member? name with
  | some (.text s) => .ok s
  | _ => .error (mismatch name "a text")

/-- A missing member and null both stand for no text. -/
def optionalText (object : RecordObject) (name : String) : Except Failure (Option String) :=
  match object.member? name with
  | none | some .null => .ok none
  | some (.text s) => .ok (some s)
  | _ => .error (mismatch name "a text or null")

/-- A double; an integer is converted. -/
def double (object : RecordObject) (name : String) : Except Failure Double :=
  match object.member? name with
  | some (.float x) => .ok x
  | some (.int n) => .ok (.ofInt n.toInt)
  | _ => .error (mismatch name "a number")

def bool (object : RecordObject) (name : String) : Except Failure Bool :=
  match object.member? name with
  | some (.bool b) => .ok b
  | _ => .error (mismatch name "a boolean")

end RecordObject

/-- How a record becomes a row of some type. -/
abbrev RowReader (Row : Type) := RecordObject → Except Failure Row

def Record.read {Row : Type} (record : Record) (reader : RowReader Row) : Except Failure Row :=
  reader record.object

/-- Every record in order; the first that does not fit is the error. -/
def ResultSet.readAll {Row : Type} (result : ResultSet) (reader : RowReader Row) :
    Except Failure (List Row) :=
  result.records.mapM fun record => record.read reader

end SqlWright
