import SqlWright.Placeholder
import SqlWright.ResultSet
/-! Compact JSON text of scalars, placeholder tables and results. -/
namespace SqlWright.Json

def hexDigit (n : Nat) : Char := (Nat.digitChar n)

/-- Quotes, backslashes and control characters are escaped; everything else stands for
itself. -/
def escapeChar (c : Char) : List Char :=
  if c = '"' then ['\\', '"']
  else if c = '\\' then ['\\', '\\']
  else if c = '\x08' then ['\\', 'b']
  else if c = '\x0c' then ['\\', 'f']
  else if c = '\n' then ['\\', 'n']
  else if c = '\r' then ['\\', 'r']
  else if c = '\t' then ['\\', 't']
  else if c.toNat < 32 then
    ['\\', 'u', '0', '0', hexDigit (c.toNat / 16), hexDigit (c.toNat % 16)]
  else [c]

def quoteChars (text : List Char) : List Char := '"' :: text.flatMap escapeChar ++ ['"']

def ofText (text : String) : String := String.ofList (quoteChars text.toList)

/-- Doubles that are no numbers are written as null. -/
def ofValue : Value → String
  | .null => "null"
  | .bool true => "true"
  | .bool false => "false"
  | .int n => toString n.toInt
  | .float x => NumberLayout.json.write x
  | .text s => ofText s

def array (items : List String) : String := "[" ++ ",".intercalate items ++ "]"

def object (members : List (String × String)) : String :=
  "\x7b" ++ ",".intercalate (members.map fun member => ofText member.1 ++ ":" ++ member.2)
    ++ "\x7d"

/-- The entries of a table sorted by name. -/
def ofTable (table : Table) : String :=
  object (table.snapshot.map fun entry => (entry.1, ofValue entry.2))

def ofResult (result : ResultSet) : String :=
  object
    [("columns", array (result.columns.map ofText)),
     ("rows", array (result.rows.map fun row => array (row.map ofValue))),
     ("affected", toString result.affected.toNat)]

end SqlWright.Json
