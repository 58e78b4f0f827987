import SqlWright.Statement.Builder
import SqlWright.Statement.Layout
/-! DELETE statements. -/
namespace SqlWright

structure Delete where
  table : String
  style : Style
  filter : Predicates
  usesTransaction : Bool
  rendered : Option Rendered

namespace Delete

inductive Change where
  | filter (predicates : Predicates)
  | useTransaction (enabled : Bool)

def draft (table : String) (style : Style) : Delete where
  table
  style
  filter := []
  usesTransaction := false
  rendered := none

def apply : Change → Delete → Delete
  | .filter predicates, delete =>
    { delete with filter := Predicates.merge delete.filter predicates }
  | .useTransaction enabled, delete => { delete with usesTransaction := enabled }

def template (delete : Delete) : Template :=
  .text ("DELETE FROM " ++ delete.style.quoted delete.table)
    ++ conditionClause " \r\nWHERE " (Predicate.templates delete.style true delete.filter) ""
    ++ .text ";"

end Delete

instance : Builder Delete where
  Change := Delete.Change
  kind := .delete
  template := Delete.template
  frozen := Delete.rendered
  freeze rendered delete := { delete with rendered := some rendered }
  apply := Delete.apply

end SqlWright
