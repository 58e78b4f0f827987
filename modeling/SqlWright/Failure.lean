/-! Why an operation failed, and the text shown for it. -/
namespace SqlWright

inductive StatementKind where
  | select
  | insert
  | update
  | delete
  deriving DecidableEq

def StatementKind.keyword : StatementKind → String
  | .select => "SELECT"
  | .insert => "INSERT"
  | .update => "UPDATE"
  | .delete => "DELETE"

/-- Where in its work a database driver failed. -/
inductive DriverStage where
  | connection
  | execute
  | transaction
  | decode
  deriving DecidableEq

def DriverStage.name : DriverStage → String
  | .connection => "Connection"
  | .execute => "Execute"
  | .transaction => "Transaction"
  | .decode => "Decode"

/-- A failure reported by the database driver, with the server's error code if it gave one. -/
structure DriverFault where
  stage : DriverStage
  code : Option String := none
  message : String
  deriving DecidableEq

namespace DriverFault

/-- A column that could not be turned into a value. -/
def undecodable (column message : String) : DriverFault :=
  { stage := .decode, message := s!"column '{column}': {message}" }

def text (fault : DriverFault) : String :=
  let code := match fault.code with
    | some code => s!" [{code}]"
    | none => ""
  fault.stage.name ++ code ++ ": " ++ fault.message

end DriverFault

/-- A call that the library refuses whatever the database says. -/
inductive Misuse where
  | emptyParameterName
  | reservedParameterName (bareName : String)
  | unboundPlaceholder (bareName : String)
  | noAttempts
  | other (message : String)
  deriving DecidableEq

def Misuse.message : Misuse → String
  | .emptyParameterName => "raw SQL parameter name cannot be empty"
  | .reservedParameterName bareName =>
    s!"raw SQL parameter name ':{bareName}' is reserved for generated placeholders"
  | .unboundPlaceholder bareName => s!"placeholder :{bareName} has no bound value"
  | .noAttempts => "transaction attempts must be at least 1"
  | .other message => message

inductive Failure where
  | frozen (kind : StatementKind)
  | usage (misuse : Misuse)
  | driver (fault : DriverFault)
  | cache (message : String)
  | serialization (message : String)
  /-- The work failed and the rollback after it was refused. -/
  | rollbackRefused (failure : Failure)
  /-- The work failed and the rollback after it failed too. -/
  | rollbackFailed (failure rollback : Failure)
  | other (message : String)
  deriving DecidableEq

namespace Failure

def message : Failure → String
  | .frozen kind => s!"The {kind.keyword} statement can no longer be modified"
  | .usage misuse => "Usage error: " ++ misuse.message
  | .driver fault => "Driver error: " ++ fault.text
  | .cache message => "Cache error: " ++ message
  | .serialization message => "Serialization error: " ++ message
  | .rollbackRefused failure => failure.message ++ " (rollback failed: ROLLBACK was refused)"
  | .rollbackFailed failure rollback =>
    failure.message ++ " (rollback failed: " ++ rollback.message ++ ")"
  | .other message => message

def isFrozen : Failure → Bool
  | .frozen _ => true
  | _ => false

def driverFault? : Failure → Option DriverFault
  | .driver fault => some fault
  | _ => none

end Failure

end SqlWright
