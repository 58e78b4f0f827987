import SqlWright.Dialogue
import SqlWright.Postgres.Positional
import SqlWright.Postgres.Wire
import SqlWright.ResultSet
/-! A Postgres connection as a driver: statements are prepared, their parameters encoded
for the types the server infers, and the rows decoded as they arrive. -/
namespace SqlWright.Postgres

/-- Why the server did not do what it was asked. -/
inductive ServerFault where
  | closed
  | refused (code message : String)
  deriving DecidableEq

def ServerFault.driverFault : ServerFault → DriverFault
  | .closed => { stage := .connection, message := "connection closed" }
  | .refused code message => { stage := .execute, code := some code, message }

/-- What the server says of a prepared statement. -/
structure Prepared where
  paramTypes : List ColumnType
  columns : List Column

abbrev Cell := Option (List UInt8)

/-- Rows as they arrive, then the command tag or the reason why they stop. -/
structure RowStream where
  rows : List (List Cell)
  ending : Except ServerFault String

namespace Client

inductive Question where
  | prepare (sql : String)
  /-- Run the statement prepared last with these parameters. -/
  | run (params : List Cell)
  /-- A command without parameters and rows. -/
  | command (text : String)
  deriving DecidableEq

def Answer : Question → Type
  | .prepare _ => Except ServerFault Prepared
  | .run _ => Except ServerFault RowStream
  | .command _ => Except ServerFault Unit

def interface : Interface := ⟨Question, Answer⟩

abbrev Run (Result : Type) := Dialogue interface (Except Failure Result)

private def executeFailure (message : String) : Failure :=
  .driver { stage := .execute, message }

private def serverFailure (fault : ServerFault) : Failure := .driver fault.driverFault

/-- A message from the server that is not of the expected form. -/
private def unreadable : Failure := executeFailure "error parsing response from server"

/-- Texts end with a NUL on the wire, so none may stand inside them. -/
def hasNul (text : String) : Bool := text.toList.contains '\x00'

/-- Encode values one after the other, counting from an index. -/
def encodeFrom (index : Nat) : List (ColumnType × Value) → Except Failure (List Cell)
  | [] => .ok []
  | (type, value) :: rest =>
    match encode type value with
    | .ok cell => (encodeFrom (index + 1) rest).map (cell :: ·)
    | .error _ => .error (executeFailure s!"error serializing parameter {index}")

/-- Encode the values for the types of a prepared statement, which must be as many. -/
def encodeAll (types : List ColumnType) (values : List Value) : Except Failure (List Cell) :=
  if types.length = values.length then encodeFrom 0 (types.zip values)
  else .error (executeFailure
    s!"expected {types.length} parameters but got {values.length}")

/-- A row as it arrives. It must have one cell for each column. -/
def receiveRow (columns : List Column) (cells : List Cell) :
    Except Failure (List (Column × Cell)) :=
  if columns.length = cells.length then .ok (columns.zip cells)
  else .error unreadable

/-- Decode a row column by column. -/
def decodeRow (columns : List Column) (cells : List Cell) : Except Failure (List Value) := do
  (← receiveRow columns cells).zipIdx.mapM fun ((column, cell), index) =>
    decodeCell column index cell

/-- The number of rows in a command tag: its last word, or none if that is no number. -/
def affectedRows (tag : String) : UInt64 :=
  let lastWord := (tag.toList.reverse.takeWhile (· ≠ ' ')).reverse
  match readInteger ⟨0, UInt64.size - 1⟩ (String.ofList lastWord) with
  | .ok count => UInt64.ofNat count.toNat
  | .error _ => 0

/-- The command tag at the end of a stream. -/
def commandTag (stream : RowStream) : Except Failure String :=
  match stream.ending with
  | .ok tag => if hasNul tag then .error unreadable else .ok tag
  | .error fault => .error (serverFailure fault)

/-- Prepare a statement and run it with values. A text that cannot be sent reaches no
server. -/
def runPrepared (sql : String) (values : List Value) : Run (Prepared × RowStream) :=
  if hasNul sql then .done (.error (executeFailure "error encoding message to server"))
  else .ask (.prepare sql) fun
    | .error fault => .done (.error (serverFailure fault))
    | .ok prepared => match encodeAll prepared.paramTypes values with
      | .error failure => .done (.error failure)
      | .ok cells => .ask (.run cells) fun
        | .error fault => .done (.error (serverFailure fault))
        | .ok stream => .done (.ok (prepared, stream))

/-- The decoded rows and the tag. A row that cannot be decoded comes before the end of the
stream. -/
def collect (columns : List Column) (stream : RowStream) : Except Failure ResultSet := do
  let rows ← stream.rows.mapM (decodeRow columns)
  let tag ← commandTag stream
  pure ⟨columns.map (·.name), rows, affectedRows tag⟩

def execute (sql : String) (table : Table) : Run ResultSet :=
  match toPositional sql table with
  | .error failure => .done (.error failure)
  | .ok (sql, values) => (runPrepared sql values).bind fun outcome =>
    .done (outcome.bind fun (prepared, stream) => collect prepared.columns stream)

/-- A control command; its failures count as failures of the transaction. -/
def control (command : String) : Run Bool :=
  .ask (.command command) fun
    | .ok () => .done (.ok true)
    | .error fault => .done (.error (.driver { fault.driverFault with stage := .transaction }))

def startTransaction : Run Bool := control "BEGIN"

def commit : Run Bool := control "COMMIT"

def rollback : Run Bool := control "ROLLBACK"

/-- The code of a server that has generated no identifier yet. -/
def noLastValue : String := "55000"

private def wrongRowCount : Failure :=
  executeFailure "query returned an unexpected number of rows"

/-- The only row of a stream; a second row is noticed as it arrives, before the stream ends. -/
def onlyRow (columns : List Column) (stream : RowStream) :
    Except Failure (List (Column × Cell)) :=
  match stream.rows with
  | [] => do
    let _ ← commandTag stream
    throw wrongRowCount
  | [only] => do
    let row ← receiveRow columns only
    let _ ← commandTag stream
    pure row
  | first :: second :: _ => do
    let _ ← receiveRow columns first
    let _ ← receiveRow columns second
    throw wrongRowCount

/-- The identifier in the first column, which must be an eight-byte integer. -/
def identifier (row : List (Column × Cell)) : Except Failure String :=
  let undecodable (message : String) : Failure := .driver (.undecodable "lastval" message)
  match row with
  | [] => .error (undecodable "invalid column `0`")
  | (column, cell) :: _ =>
    match column.type, cell with
    | .int8, some bytes =>
      if bytes.length = 8 then .ok (toString (decodeInteger bytes))
      else .error (undecodable (misfit 0))
    | _, _ => .error (undecodable (misfit 0))

/-- The identifier generated last, if the session has generated one. -/
def lastInsertId : Run (Option String) :=
  (runPrepared "SELECT lastval()" []).bind fun outcome =>
    let found := outcome.bind fun (prepared, stream) =>
      (onlyRow prepared.columns stream).bind identifier
    .done <| match found with
      | .ok id => .ok (some id)
      | .error (.driver fault) =>
        if fault.code = some noLastValue then .ok none else .error (.driver fault)
      | .error failure => .error failure

end Client

end SqlWright.Postgres
