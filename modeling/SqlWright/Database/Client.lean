import SqlWright.Database.Session
import SqlWright.Statement.Basic
/-! What the client of a handle does with it, one call after the other. Units of work in a
transaction are clients again. -/
namespace SqlWright

namespace Client

variable {Kind : Type}

/-- The ways to look at a fetched result; rows are read as types out of a family. -/
inductive View (Row : Kind → Type) where
  | all
  | first
  | column (index : Nat)
  | firstAs (kind : Kind) (reader : RowReader (Row kind))
  | allAs (kind : Kind) (reader : RowReader (Row kind))

/-- A call that executes or fetches. -/
inductive Call (Row : Kind → Type) where
  | execute (statement : Statement)
  | executeRaw (fragment : Fragment)
  /-- In a transaction of its own, if the statement asks for one. -/
  | exec (statement : Statement)
  | fetch (select : Select) (ttl : CacheTtl) (view : View Row)

variable {Row : Kind → Type}

namespace View

abbrev Out : View Row → Type
  | .all => List Record
  | .first => Option Record
  | .column _ => Option Value
  | .firstAs kind _ => Option (Row kind)
  | .allAs kind _ => List (Row kind)

def fetch (config : Config) (hasStore : Bool) (select : Select) (ttl : CacheTtl) :
    (view : View Row) → Session.Run Statement view.Out
  | .all => Session.fetchAll config hasStore (.select select) ttl
  | .first => Session.fetch config hasStore (.select select) ttl
  | .column index => Session.fetchColumn config hasStore (.select select) index ttl
  | .firstAs _ reader => Session.fetchAs config hasStore (.select select) reader ttl
  | .allAs _ reader => Session.fetchAllAs config hasStore (.select select) reader ttl

end View

namespace Call

abbrev Out : Call Row → Type
  | .execute _ | .executeRaw _ | .exec _ => ResultSet
  | .fetch _ _ view => view.Out

/-- What a call asks of the handle's collaborators. -/
def dialogue (config : Config) (hasStore : Bool) :
    (call : Call Row) → Session.Run Statement call.Out
  | .execute statement => Session.execute config statement
  | .executeRaw fragment => Session.executeRaw config fragment
  | .exec statement => Session.exec config statement statement.usesTransaction
  | .fetch select ttl view => view.fetch config hasStore select ttl

end Call

/-- What a client asks for. -/
inductive Question (Row : Kind → Type) where
  /-- Set a lead-in for the next call, or clear it. -/
  | setLead (lead : Option String)
  | call (call : Call Row)
  | start
  | commit
  | rollback
  | pause (milliseconds : Nat)
  | lastInsertId
  /-- Something the client finds out by itself, such as how often a unit of work was begun. -/
  | observe

def Answer : Question Row → Type
  | .setLead _ | .pause _ => Unit
  | .call call => Except Failure call.Out
  | .start | .commit | .rollback => Except Failure Bool
  | .lastInsertId => Except Failure (Option String)
  | .observe => Nat

def interface (Row : Kind → Type) : Interface := ⟨Question Row, Answer⟩

/-- Run a unit of work as a transaction. -/
def transaction {Result : Type} (policy : RetryPolicy)
    (work : Dialogue (interface Row) (Except Failure Result)) :
    Dialogue (interface Row) (Except Failure Result) :=
  Dialogue.refine (I := Transaction.interface Result) (fun
    | .start => .ask .start .done
    | .work => work
    | .commit => .ask .commit .done
    | .rollback => .ask .rollback .done
    | .pause milliseconds => .ask (.pause milliseconds) .done) (Transaction.run policy)

end Client

end SqlWright
