import SqlWright.Template
/-! The life cycle shared by all statements. A statement is amended until it is rendered
for the first time; the rendered text is then kept and every later amendment is refused. -/
namespace SqlWright

/-- A kind of statement: its clauses, the amendments it takes, and the text it was frozen
with. -/
class Builder (Stmt : Type) where
  Change : Type
  kind : StatementKind
  /-- The clauses laid out in the statement's own style. -/
  template : Stmt → Template
  frozen : Stmt → Option Rendered
  freeze : Rendered → Stmt → Stmt
  apply : Change → Stmt → Stmt

namespace Builder

variable {Stmt : Type} [Builder Stmt]

/-- The text and table of the current clauses. -/
def build (stmt : Stmt) : Rendered := (template stmt).build

def isFrozen (stmt : Stmt) : Bool := (frozen stmt).isSome

/-- The kept text, or the current one, which is kept from then on. -/
def render (stmt : Stmt) : Rendered × Stmt :=
  match frozen stmt with
  | some rendered => (rendered, stmt)
  | none => (build stmt, freeze (build stmt) stmt)

/-- What rendering reports besides its text: the operands that membership tests passed
over. Kept text reports nothing again. -/
def renderNotices (stmt : Stmt) : List Nat :=
  if isFrozen stmt then [] else (template stmt).notices

/-- Change a clause, unless the statement is frozen. -/
def amend (stmt : Stmt) (change : Change Stmt) : Except Failure Stmt :=
  if isFrozen stmt then .error (.frozen (kind Stmt)) else .ok (apply change stmt)

end Builder

end SqlWright
