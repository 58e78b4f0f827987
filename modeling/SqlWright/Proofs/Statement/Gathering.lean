import SqlWright.Proofs.Keyed.History
import SqlWright.Proofs.Statement.Lifecycle
/-! Conditions, projections and lists of assignments as ordered maps, in which the last item under
a key counts and stands where the first one stood. A clause that is changed collection by
collection becomes what one change with all of them merged makes of it. -/
namespace SqlWright

open Keyed (Call Distinct lastOfEach)

variable {Item Stmt : Type}

namespace Builder

variable [Builder Stmt] [LawfulBuilder Stmt]

end Builder

end SqlWright
