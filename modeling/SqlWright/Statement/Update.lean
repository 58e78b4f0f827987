import SqlWright.Statement.Builder
import SqlWright.Statement.Layout
/-! UPDATE statements. -/
namespace SqlWright

structure Update where
  table : String
  style : Style
  assignments : Assignments
  filter : Predicates
  joins : Joins
  usesTransaction : Bool
  rendered : Option Rendered

namespace Update

inductive Change where
  | set (assignments : Assignments)
  | commaJoin (target : Option String)
  | join (join : Join)
  | filter (predicates : Predicates)
  | useTransaction (enabled : Bool)

def draft (table : String) (style : Style) : Update where
  table
  style
  assignments := []
  filter := []
  joins := .none
  usesTransaction := false
  rendered := none

def apply : Change → Update → Update
  | .set assignments, update =>
    { update with assignments := Assignments.merge update.assignments assignments }
  | .commaJoin target, update => { update with joins := update.joins.addComma target }
  | .join join, update => { update with joins := update.joins.add join }
  | .filter predicates, update =>
    { update with filter := Predicates.merge update.filter predicates }
  | .useTransaction enabled, update => { update with usesTransaction := enabled }

def template (update : Update) : Template :=
  .text ("UPDATE " ++ update.style.quoted update.table)
    ++ update.joins.template update.style ++ .text " \r\nSET "
    ++ Assignments.template update.style update.assignments
    ++ conditionClause " \r\nWHERE " (Predicate.templates update.style true update.filter) ""
    ++ .text ";"

end Update

instance : Builder Update where
  Change := Update.Change
  kind := .update
  template := Update.template
  frozen := Update.rendered
  freeze rendered update := { update with rendered := some rendered }
  apply := Update.apply

end SqlWright
