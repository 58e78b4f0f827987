import SqlWright.Failure
/-! What is reported while statements are rendered and run. -/
namespace SqlWright

inductive EventLevel where
  | trace
  | debug
  | warn
  deriving DecidableEq

def EventLevel.name : EventLevel → String
  | .trace => "TRACE"
  | .debug => "DEBUG"
  | .warn => "WARN"

inductive Event where
  /-- A statement is handed to the driver; raw SQL has no kind. -/
  | sent (kind : Option StatementKind) (paramCount : Nat) (sql : String)
  /-- A membership test kept its first select and passed over the other operands. -/
  | operandsDropped (count : Nat)
  | committed (attempt : Nat)
  | retrying (attempt maxAttempts delay : Nat) (failure : Failure)
  | cacheHit (key : String)
  | cacheMiss (key : String)
  deriving DecidableEq

/-- A named detail of an event. -/
inductive EventField where
  | number (n : Nat)
  | text (s : String)
  deriving DecidableEq

namespace Event

def level : Event → EventLevel
  | .sent .. => .debug
  | .operandsDropped _ => .warn
  | .committed _ => .debug
  | .retrying .. => .warn
  | .cacheHit _ | .cacheMiss _ => .trace

/-- The part of the library that reports. -/
def target : Event → String
  | .sent .. | .operandsDropped _ => "sqlstmt.sql"
  | .committed _ | .retrying .. => "sqlstmt.tx"
  | .cacheHit _ | .cacheMiss _ => "sqlstmt.cache"

def message : Event → Option String
  | .sent .. => none
  | .operandsDropped _ =>
    some "IN list mixes a sub-select with other values; only the sub-select is rendered"
  | .committed _ => some "transaction committed"
  | .retrying .. => some "transient transaction failure, retrying"
  | .cacheHit _ => some "cache hit"
  | .cacheMiss _ => some "cache miss"

def fields : Event → List (String × EventField)
  | .sent kind paramCount sql =>
    [("kind", .text ((kind.map StatementKind.keyword).getD "RAW")),
     ("param_count", .number paramCount), ("sql", .text sql)]
  | .operandsDropped count => [("dropped", .number count)]
  | .committed attempt => [("attempt", .number attempt)]
  | .retrying attempt maxAttempts delay failure =>
    [("attempt", .number attempt), ("max_attempts", .number maxAttempts),
     ("delay_ms", .number delay), ("error", .text failure.message)]
  | .cacheHit key | .cacheMiss key => [("key", .text key)]

end Event

end SqlWright
