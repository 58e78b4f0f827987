import SqlWright.Postgres.Client
/-! A Postgres server that answers as prepared and keeps what it received. -/
namespace SqlWright.Postgres

/-- Where the server refuses. -/
inductive RefusalPoint where
  | parse
  | bind
  | execute
  | query
  deriving DecidableEq

structure Refusal where
  point : RefusalPoint
  code : String
  message : String
  deriving DecidableEq

/-- A message that reached the server. -/
inductive Received where
  | parse (sql : String)
  | bind (params : List Cell)
  | query (text : String)
  deriving DecidableEq

structure PreparedServer where
  paramTypes : List ColumnType := []
  columns : List Column := []
  rows : List (List Cell) := []
  tag : String := "SELECT 0"
  refusal : Option Refusal := none
  /-- The next message that reaches the server makes it drop the connection. -/
  closing : Bool := false
  /-- The connection is gone. -/
  closed : Bool := false
  received : List Received := []

namespace PreparedServer

private def receive (server : PreparedServer) (message : Received) : PreparedServer :=
  { server with received := server.received ++ [message] }

/-- A text as it is read from the wire, where it ends at its first NUL. -/
private def onWire (text : String) : String :=
  String.ofList (text.toList.takeWhile (· ≠ '\x00'))

/-- The fault of a server that refuses at this point. -/
private def faultAt (server : PreparedServer) (point : RefusalPoint) : Option ServerFault :=
  server.refusal.bind fun refusal =>
    if refusal.point = point then
      some (.refused (onWire refusal.code) (onWire refusal.message))
    else none

/-- Nothing is received through a connection that is gone or about to be dropped. -/
private def isUnreachable (server : PreparedServer) : Bool := server.closed || server.closing

private def drop (server : PreparedServer) : PreparedServer := { server with closed := true }

/-- An unreachable server receives nothing, and its connection is gone from then on. -/
def answer : (question : Client.Question) → PreparedServer →
    Client.Answer question × PreparedServer
  | .prepare sql, server =>
    if server.isUnreachable then (.error .closed, server.drop)
    else
      (match server.faultAt .parse with
        | some fault => .error fault
        | none => .ok ⟨server.paramTypes, server.columns⟩,
        server.receive (.parse sql))
  | .run params, server =>
    if server.isUnreachable then (.error .closed, server.drop)
    else
      (match server.faultAt .bind with
        | some fault => .error fault
        | none => .ok ⟨server.rows,
          match server.faultAt .execute with
          | some fault => .error fault
          | none => .ok server.tag⟩,
        server.receive (.bind params))
  | .command text, server =>
    if server.isUnreachable then (.error .closed, server.drop)
    else
      (match server.faultAt .query with
        | some fault => .error fault
        | none => .ok (),
        server.receive (.query text))

def respondent : Respondent Client.interface PreparedServer := ⟨answer, fun _ server => server⟩

end PreparedServer

end SqlWright.Postgres
