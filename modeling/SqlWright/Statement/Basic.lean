import SqlWright.Statement.Select
import SqlWright.Statement.Insert
import SqlWright.Statement.Update
import SqlWright.Statement.Delete
/-! Any of the four statements, for callers that execute them without caring which. -/
namespace SqlWright

inductive Statement where
  | select (select : Select)
  | insert (insert : Insert)
  | update (update : Update)
  | delete (delete : Delete)

namespace Statement

def draft (kind : StatementKind) (table : String) (style : Style) : Statement :=
  match kind with
  | .select => .select (.draft table style)
  | .insert => .insert (.draft table style)
  | .update => .update (.draft table style)
  | .delete => .delete (.draft table style)

def kind : Statement → StatementKind
  | .select _ => .select
  | .insert _ => .insert
  | .update _ => .update
  | .delete _ => .delete

def table : Statement → String
  | .select stmt => stmt.table
  | .insert stmt => stmt.table
  | .update stmt => stmt.table
  | .delete stmt => stmt.table

/-- Whether executing the statement opens a transaction of its own; a select never does. -/
def usesTransaction : Statement → Bool
  | .select _ => false
  | .insert stmt => stmt.usesTransaction
  | .update stmt => stmt.usesTransaction
  | .delete stmt => stmt.usesTransaction

def isFrozen : Statement → Bool
  | .select stmt => Builder.isFrozen stmt
  | .insert stmt => Builder.isFrozen stmt
  | .update stmt => Builder.isFrozen stmt
  | .delete stmt => Builder.isFrozen stmt

/-- Render and keep the text. -/
def render : Statement → Rendered × Statement
  | .select stmt => (Builder.render stmt).map id .select
  | .insert stmt => (Builder.render stmt).map id .insert
  | .update stmt => (Builder.render stmt).map id .update
  | .delete stmt => (Builder.render stmt).map id .delete

def renderNotices : Statement → List Nat
  | .select stmt => Builder.renderNotices stmt
  | .insert stmt => Builder.renderNotices stmt
  | .update stmt => Builder.renderNotices stmt
  | .delete stmt => Builder.renderNotices stmt

end Statement

end SqlWright
