import SqlWright.Statement.Basic
/-! Clauses that a statement hands out, to be changed in place by whoever asked for them. As with
every other change, nothing is handed out once the statement is frozen. -/
namespace SqlWright

/-- What a kind of statement hands out, with the change that is made to it. -/
class Handout (Stmt : Type) where
  Revision : Type
  revise : Revision → Stmt → Stmt

/-- The clauses that selects and updates hand out. -/
inductive Revision where
  | filter (edit : Predicates → Predicates)
  | joins (edit : Joins → Joins)

instance : Handout Select where
  Revision := Revision
  revise
    | .filter edit, select => { select with filter := edit select.filter }
    | .joins edit, select => { select with joins := edit select.joins }

instance : Handout Update where
  Revision := Revision
  revise
    | .filter edit, update => { update with filter := edit update.filter }
    | .joins edit, update => { update with joins := edit update.joins }

/-- A delete has no joins. -/
instance : Handout Delete where
  Revision := Predicates → Predicates
  revise edit delete := { delete with filter := edit delete.filter }

/-- An insert hands out nothing. -/
instance : Handout Insert where
  Revision := Empty
  revise revision := nomatch revision

namespace Builder

variable {Stmt : Type} [Builder Stmt] [Handout Stmt]

/-- Hand a clause out and take it back revised, unless the statement is frozen. -/
def revise (stmt : Stmt) (revision : Handout.Revision Stmt) : Except Failure Stmt :=
  if isFrozen stmt then .error (.frozen (kind Stmt)) else .ok (Handout.revise revision stmt)

end Builder

end SqlWright
