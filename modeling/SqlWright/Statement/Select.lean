import SqlWright.Statement.Builder
import SqlWright.Statement.Layout
/-! Selects as statements of their own, and the changes they take. -/
namespace SqlWright

namespace Select

inductive Change where
  | fields (fields : Fields)
  | into (target : Option String)
  | commaJoin (target : Option String)
  | join (join : Join)
  | filter (predicates : Predicates)
  | groupBy (columns : List String)
  | having (predicates : Predicates)
  | orderBy (columns : List String)
  | limit (limit : Limit)
  | page (page : Option UInt64)
  | union (other : Option Select)
  | unionAll (all : Bool)

def draft (table : String) (style : Style) : Select where
  table
  style
  fields := []
  into := none
  joins := .none
  filter := []
  groupBy := []
  having := []
  orderBy := []
  limit := .unset
  page := none
  unions := []
  unionAll := false
  rendered := none

/-- Columns add up; an empty list forgets them. -/
def addColumns (columns additions : List String) : List String :=
  if additions.isEmpty then [] else columns ++ additions

def apply : Change → Select → Select
  | .fields fields, select => { select with fields := Fields.merge select.fields fields }
  | .into target, select => { select with into := target }
  | .commaJoin target, select => { select with joins := select.joins.addComma target }
  | .join join, select => { select with joins := select.joins.add join }
  | .filter predicates, select =>
    { select with filter := Predicates.merge select.filter predicates }
  | .groupBy columns, select => { select with groupBy := addColumns select.groupBy columns }
  | .having predicates, select =>
    { select with having := Predicates.merge select.having predicates }
  | .orderBy columns, select => { select with orderBy := addColumns select.orderBy columns }
  | .limit limit, select => { select with limit := limit }
  | .page page, select => { select with page := page }
  | .union (some other), select => { select with unions := select.unions ++ [other] }
  | .union none, select => { select with unions := [] }
  | .unionAll all, select => { select with unionAll := all }

end Select

instance : Builder Select where
  Change := Select.Change
  kind := .select
  template select := select.template select.style
  frozen := Select.rendered
  freeze rendered select := { select with rendered := some rendered }
  apply := Select.apply

end SqlWright
