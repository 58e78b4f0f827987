import SqlWright.Json.Tree
import SqlWright.ResultSet
/-! Reading scalars and results back from JSON text. -/
namespace SqlWright.Json

def malformed : Failure := .serialization "malformed JSON text"

/-- An integer where it fits 64 bits, else a double. A negative zero is a double, too. -/
def Number.value? (number : Number) : Option Value :=
  match number.integer? with
  | some n =>
    if number.negative ∧ n = 0 then some (.float (.ofPattern true 0))
    else if Int64.minValue.toInt ≤ n ∧ n ≤ Int64.maxValue.toInt then
      some (.int (Int64.ofInt n))
    else if n.natAbs < UInt64.size then some (.float (.ofInt n))
    else number.double?.map .float
  | none => number.double?.map .float

def textOfUnits (units : List StringUnit) : Option String := (decodeUnits units).map String.ofList

/-- The scalar a tree stands for; lists and objects are none. -/
def Tree.value? : Tree → Option Value
  | .null => some .null
  | .bool b => some (.bool b)
  | .number written => written.value?
  | .string units => (textOfUnits units).map .text
  | .array _ | .object _ => none

def Tree.text? : Tree → Option String
  | .string units => textOfUnits units
  | _ => none

def Tree.items? : Tree → Option (List Tree)
  | .array items => some items
  | _ => none

/-- An unsigned 64-bit integer. -/
def Tree.count? : Tree → Option UInt64
  | .number written =>
    match written.integer? with
    | some n =>
      if ¬ written.negative ∧ n < UInt64.size then some (UInt64.ofNat n.toNat) else none
    | none => none
  | _ => none

def readValue (text : String) : Except Failure Value :=
  match (Tree.parse text).bind Tree.value? with
  | some value => .ok value
  | none => .error malformed

def resultOfParts (columns rows affected : Tree) : Option ResultSet := do
  let columns ← (← columns.items?).mapM Tree.text?
  let rows ← (← rows.items?).mapM fun row => do (← row.items?).mapM Tree.value?
  let affected ← affected.count?
  pure ⟨columns, rows, affected⟩

/-- The only member of a name. -/
def onlyMember (members : List (String × Tree)) (name : String) : Option Tree :=
  match members.filter fun member => member.1 = name with
  | [member] => some member.2
  | _ => none

/-- A result as an object with its three members, among others that are passed over, or as
a list of the three. -/
def Tree.result? : Tree → Option ResultSet
  | .object members => do
    let members ← members.mapM fun member => do pure (← textOfUnits member.1, member.2)
    resultOfParts (← onlyMember members "columns") (← onlyMember members "rows")
      (← onlyMember members "affected")
  | .array [columns, rows, affected] => resultOfParts columns rows affected
  | _ => none

def readResult (text : String) : Except Failure ResultSet :=
  match (Tree.parse text).bind Tree.result? with
  | some result => .ok result
  | none => .error malformed

end SqlWright.Json
