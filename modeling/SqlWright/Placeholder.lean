import SqlWright.Value
import SqlWright.Keyed
/-! The placeholder table of a rendered statement: named scalars in order of first use,
and a counter that numbers the generated names. -/
namespace SqlWright

namespace Placeholder

/-- The generated name with this index. -/
def generated (index : Nat) : String := ":p" ++ toString index

/-- A name without one leading colon. -/
def bare (name : String) : String :=
  match name.toList with
  | ':' :: rest => String.ofList rest
  | _ => name

/-- Bare names of the generated shape: a `p` and at least one digit, nothing else. -/
def isReserved (bareName : String) : Bool :=
  match bareName.toList with
  | 'p' :: digit :: rest => (digit :: rest).all Char.isDigit
  | _ => false

/-- Table names of the generated shape. -/
def isGenerated (name : String) : Bool :=
  match name.toList with
  | ':' :: rest => isReserved (String.ofList rest)
  | _ => false

/-- Table names that a caller may bind: a colon, and a name that is neither empty nor of
the generated shape. -/
def isCallerName (name : String) : Bool :=
  match name.toList with
  | ':' :: rest => !rest.isEmpty && !isReserved (String.ofList rest)
  | _ => false

end Placeholder

/-- Named scalars, and the index of the next generated name. -/
structure Table where
  entries : List (String × Value) := []
  next : Nat := 0
  deriving DecidableEq

namespace Table

instance : Inhabited Table := ⟨⟨[], 0⟩⟩

/-- Append a scalar under the next generated name, which is returned. -/
def allocate (table : Table) (value : Value) : String × Table :=
  let name := Placeholder.generated table.next
  (name, ⟨table.entries ++ [(name, value)], table.next + 1⟩)

/-- Give a name a value: at its first position if it is there, else at the end. -/
def set (table : Table) (name : String) (value : Value) : Table :=
  { table with
    entries := Keyed.putAt (fun entry : String × Value => some entry.1) name (name, value)
      table.entries }

def setAll (table : Table) (entries : List (String × Value)) : Table :=
  entries.foldl (fun table entry => table.set entry.1 entry.2) table

/-- An empty table that goes on counting where this one stands. -/
def fork (table : Table) : Table := ⟨[], table.next⟩

/-- Take over the counter and the entries of a forked table. -/
def absorb (table child : Table) : Table :=
  Table.setAll { table with next := max table.next child.next } child.entries

/-- The first value under a name; one leading colon does not count on either side. -/
def get? (table : Table) (name : String) : Option Value :=
  (table.entries.find? fun entry => Placeholder.bare entry.1 = Placeholder.bare name).map (·.2)

def size (table : Table) : Nat := table.entries.length

def names (table : Table) : List String := table.entries.map (·.1)

/-- Put an entry into a list sorted by name, in place of one with the same name. -/
def insertSorted (entry : String × Value) : List (String × Value) → List (String × Value)
  | [] => [entry]
  | first :: rest =>
    if entry.1 < first.1 then entry :: first :: rest
    else if entry.1 = first.1 then entry :: rest
    else first :: insertSorted entry rest

/-- The entries sorted by name; of several under one name the last stays. -/
def snapshot (table : Table) : List (String × Value) :=
  table.entries.foldl (fun sorted entry => insertSorted entry sorted) []

end Table

end SqlWright
