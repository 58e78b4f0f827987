import SqlWright.Statement.Builder
import SqlWright.Statement.Layout
/-! INSERT and REPLACE statements. Rows may be nested to any depth; the column list is
that of the first leaf and each leaf is one tuple. -/
namespace SqlWright

/-- The rows of an insert. A bare list of columns binds the column names themselves. -/
inductive Row where
  | assigned (assignments : Assignments)
  | columns (names : List String)
  | many (rows : List Row)

namespace Row

mutual

/-- The columns of the first leaf. -/
def columnNames : Row → List String
  | .assigned assignments => assignments.columns
  | .columns names => names
  | .many rows => firstColumnNames rows

def firstColumnNames : List Row → List String
  | [] => []
  | first :: _ => first.columnNames

end

/-- The expressions of one leaf in parentheses; a leaf without any writes nothing. -/
def tuple (expressions : List Template) : Template :=
  if expressions.isEmpty then .empty else .parenthesized (.joined "," expressions)

mutual

def template (style : Style) : Row → Template
  | .assigned assignments => tuple (assignments.operands.map (Operand.template style))
  | .columns names => tuple (names.map fun name => .scalar (.text name))
  | .many rows => .joined "," (templates style rows)

def templates (style : Style) : List Row → List Template
  | [] => []
  | row :: rest => row.template style :: templates style rest

end

end Row

structure Insert where
  table : String
  style : Style
  row : Row
  source : Option Select
  onDuplicate : Assignments
  ignore : Bool
  replace : Bool
  usesTransaction : Bool
  rendered : Option Rendered

namespace Insert

inductive Change where
  | values (row : Row)
  | source (select : Option Select)
  | onDuplicate (assignments : Assignments)
  | ignore (ignore : Bool)
  | replace (replace : Bool)
  | useTransaction (enabled : Bool)

def draft (table : String) (style : Style) : Insert where
  table
  style
  row := .many []
  source := none
  onDuplicate := []
  ignore := false
  replace := false
  usesTransaction := false
  rendered := none

def apply : Change → Insert → Insert
  | .values row, insert => { insert with row := row }
  | .source select, insert => { insert with source := select }
  | .onDuplicate assignments, insert =>
    { insert with onDuplicate := Assignments.merge insert.onDuplicate assignments }
  | .ignore ignore, insert => { insert with ignore := ignore }
  | .replace replace, insert => { insert with replace := replace }
  | .useTransaction enabled, insert => { insert with usesTransaction := enabled }

/-- REPLACE wins over IGNORE. -/
def instruction (insert : Insert) : String :=
  if insert.replace then "REPLACE INTO"
  else if insert.ignore then "INSERT IGNORE INTO"
  else "INSERT INTO"

def columnList (style : Style) (columns : List String) : String :=
  if columns.isEmpty then "" else "(" ++ ",".intercalate (columns.map style.quoted) ++ ")"

/-- The rows, or the select they come from, which stands without parentheses. -/
def body (insert : Insert) : Template :=
  match insert.source with
  | some select => .nested (select.template insert.style)
  | none => .text "VALUES " ++ insert.row.template insert.style

def onDuplicateClause (insert : Insert) : Template :=
  if insert.onDuplicate.isEmpty then .empty
  else .text "\r\nON DUPLICATE KEY UPDATE " ++ Assignments.template insert.style insert.onDuplicate

def template (insert : Insert) : Template :=
  .text (insert.instruction ++ " " ++ insert.style.quoted insert.table
      ++ columnList insert.style insert.row.columnNames ++ " \r\n")
    ++ insert.body ++ insert.onDuplicateClause ++ .text ";"

end Insert

instance : Builder Insert where
  Change := Insert.Change
  kind := .insert
  template := Insert.template
  frozen := Insert.rendered
  freeze rendered insert := { insert with rendered := some rendered }
  apply := Insert.apply

end SqlWright
