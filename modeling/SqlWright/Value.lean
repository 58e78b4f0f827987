import SqlWright.Number.Layout
/-! The scalars that statements bind and result rows hold. -/
namespace SqlWright

inductive Value where
  | null
  | bool (b : Bool)
  | int (n : Int64)
  | float (x : Double)
  | text (s : String)
  deriving DecidableEq

instance : Inhabited Value := ⟨.null⟩

/-- How a scalar is handed to a client library that knows only four kinds. -/
inductive BindType where
  | int
  | bool
  | null
  | str
  deriving DecidableEq

namespace Value

def bindType : Value → BindType
  | .null => .null
  | .bool _ => .bool
  | .int _ => .int
  | .float _ | .text _ => .str

def isNull : Value → Bool
  | .null => true
  | _ => false

/-- The text written for a scalar where no placeholder is allowed. Text is written as it
is, so that it can name a column. -/
def literal : Value → String
  | .null => "NULL"
  | .bool true => "1"
  | .bool false => "0"
  | .int n => toString n.toInt
  | .float x => NumberLayout.literal.write x
  | .text s => s

def asText : Value → Option String
  | .text s => some s
  | _ => none

def asInt : Value → Option Int64
  | .int n => some n
  | .bool b => some (if b then 1 else 0)
  | _ => none

def asDouble : Value → Option Double
  | .float x => some x
  | .int n => some (.ofInt n.toInt)
  | _ => none

def asBool : Value → Option Bool
  | .bool b => some b
  | .int n => some (n != 0)
  | _ => none

end Value

end SqlWright
