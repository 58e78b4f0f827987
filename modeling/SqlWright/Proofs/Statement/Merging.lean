import SqlWright.Proofs.Statement.Lifecycle
/-! What a merged select brings of itself: its clauses alone. The style it would stand alone with
and the text it was frozen with are never asked for, however deep it is nested. -/
namespace SqlWright

mutual

/-- An operand whose selects are bared. -/
def Operand.bared : Operand → Operand
  | .value value => .value value
  | .fragment fragment => .fragment fragment
  | .select select => .select select.bared

def Operand.allBared : List Operand → List Operand
  | [] => []
  | operand :: rest => operand.bared :: Operand.allBared rest

def Predicate.bared : Predicate → Predicate
  | .raw fragment => .raw fragment
  | .isNull column => .isNull column
  | .equal column operand => .equal column operand.bared
  | .among column operands => .among column (Operand.allBared operands)
  | .subSelect column select => .subSelect column select.bared

def Predicate.allBared : List Predicate → List Predicate
  | [] => []
  | predicate :: rest => predicate.bared :: Predicate.allBared rest

def Field.bared : Field → Field
  | .expression text => .expression text
  | .aliased column name => .aliased column name
  | .subSelect name select => .subSelect name select.bared

def Field.allBared : List Field → List Field
  | [] => []
  | field :: rest => field.bared :: Field.allBared rest

def Join.bared : Join → Join
  | ⟨kind, target, on⟩ => ⟨kind, target, Predicate.allBared on⟩

def Join.allBared : List Join → List Join
  | [] => []
  | join :: rest => join.bared :: Join.allBared rest

def Joins.bared : Joins → Joins
  | ⟨comma, typed⟩ => ⟨comma, Join.allBared typed⟩

/-- A select without the text it was frozen with and with the style that all bared selects have,
and the same for the selects in it. -/
def Select.bared : Select → Select
  | ⟨table, _, fields, into, joins, filter, groupBy, having, orderBy, limit, page, unions,
      unionAll, _⟩ =>
    ⟨table, .standard, Field.allBared fields, into, joins.bared, Predicate.allBared filter,
      groupBy, Predicate.allBared having, orderBy, limit, page, Select.allBared unions, unionAll,
      none⟩

def Select.allBared : List Select → List Select
  | [] => []
  | select :: rest => select.bared :: Select.allBared rest

end

def Assignments.bared (assignments : Assignments) : Assignments :=
  assignments.map fun assignment => (assignment.1, assignment.2.bared)

mutual

def Row.bared : Row → Row
  | .assigned assignments => .assigned assignments.bared
  | .columns names => .columns names
  | .many rows => .many (Row.allBared rows)

def Row.allBared : List Row → List Row
  | [] => []
  | row :: rest => row.bared :: Row.allBared rest

end

def Insert.bared (insert : Insert) : Insert :=
  { insert with
    row := insert.row.bared
    source := insert.source.map Select.bared
    onDuplicate := Assignments.bared insert.onDuplicate }

def Update.bared (update : Update) : Update :=
  { update with
    assignments := Assignments.bared update.assignments
    filter := Predicate.allBared update.filter
    joins := update.joins.bared }

def Delete.bared (delete : Delete) : Delete :=
  { delete with filter := Predicate.allBared delete.filter }

/-- A statement with every select in it bared. Its own style and the text it was itself frozen
with stay. -/
def Statement.withBared : Statement → Statement
  | .select stmt => .select { stmt.bared with style := stmt.style, rendered := stmt.rendered }
  | .insert stmt => .insert stmt.bared
  | .update stmt => .update stmt.bared
  | .delete stmt => .delete stmt.bared

theorem Operand.length_allBared (operands : List Operand) :
    (Operand.allBared operands).length = operands.length := by
  induction operands with
  | nil => rfl
  | cons operand rest ih => simp [Operand.allBared, ih]

mutual

theorem Operand.template_bared (style : Style) : (operand : Operand) →
    operand.bared.template style = operand.template style
  | .value _ => rfl
  | .fragment _ => rfl
  | .select select => by
    simp only [Operand.bared, Operand.template, Select.template_bared style select]

theorem Operand.templates_allBared (style : Style) : (operands : List Operand) →
    Operand.templates style (Operand.allBared operands) = Operand.templates style operands
  | [] => rfl
  | operand :: rest => by
    simp only [Operand.allBared, Operand.templates, Operand.template_bared style operand,
      Operand.templates_allBared style rest]

theorem Operand.firstSelect_allBared (style : Style) : (operands : List Operand) →
    Operand.firstSelect style (Operand.allBared operands) = Operand.firstSelect style operands
  | [] => rfl
  | .value _ :: rest => Operand.firstSelect_allBared style rest
  | .fragment _ :: rest => Operand.firstSelect_allBared style rest
  | .select select :: _ => by
    simp only [Operand.allBared, Operand.bared, Operand.firstSelect,
      Select.template_bared style select]

theorem Predicate.template_bared (style : Style) (parameterized : Bool) :
    (predicate : Predicate) →
      predicate.bared.template style parameterized = predicate.template style parameterized
  | .raw _ => rfl
  | .isNull _ => rfl
  | .equal _ (.value _) => rfl
  | .equal _ (.fragment _) => rfl
  | .equal _ (.select select) => by
    simp only [Predicate.bared, Operand.bared, Predicate.template,
      Select.template_bared style select]
  | .subSelect _ select => by
    simp only [Predicate.bared, Predicate.template, Select.template_bared style select]
  | .among _ [] => rfl
  | .among _ (first :: rest) => by
    have chosen := Operand.firstSelect_allBared style (first :: rest)
    have all := Operand.templates_allBared style (first :: rest)
    simp only [Operand.allBared] at chosen all
    simp only [Predicate.bared, Operand.allBared, Predicate.template, Operand.length_allBared,
      chosen, all]

theorem Predicate.templates_allBared (style : Style) (parameterized : Bool) :
    (predicates : List Predicate) →
      Predicate.templates style parameterized (Predicate.allBared predicates) =
        Predicate.templates style parameterized predicates
  | [] => rfl
  | predicate :: rest => by
    simp only [Predicate.allBared, Predicate.templates,
      Predicate.template_bared style parameterized predicate,
      Predicate.templates_allBared style parameterized rest]

theorem Field.template_bared (style : Style) : (field : Field) →
    field.bared.template style = field.template style
  | .expression _ => rfl
  | .aliased .. => rfl
  | .subSelect _ select => by
    simp only [Field.bared, Field.template, Select.template_bared style select]

theorem Field.templates_allBared (style : Style) : (fields : List Field) →
    Field.templates style (Field.allBared fields) = Field.templates style fields
  | [] => rfl
  | field :: rest => by
    simp only [Field.allBared, Field.templates, Field.template_bared style field,
      Field.templates_allBared style rest]

theorem Join.template_bared (style : Style) : (join : Join) →
    join.bared.template style = join.template style
  | ⟨_, _, on⟩ => by
    simp only [Join.bared, Join.template, Predicate.templates_allBared style false on]

theorem Join.templates_allBared (style : Style) : (joins : List Join) →
    Join.templates style (Join.allBared joins) = Join.templates style joins
  | [] => rfl
  | join :: rest => by
    simp only [Join.allBared, Join.templates, Join.template_bared style join,
      Join.templates_allBared style rest]

theorem Joins.template_bared (style : Style) : (joins : Joins) →
    joins.bared.template style = joins.template style
  | ⟨_, typed⟩ => by
    simp only [Joins.bared, Joins.template, Join.templates_allBared style typed]

/-- In a given style a select is laid out as the bared one is. -/
theorem Select.template_bared (style : Style) : (select : Select) →
    select.bared.template style = select.template style
  | ⟨_, _, fields, _, joins, filter, _, having, _, _, _, unions, _, _⟩ => by
    simp only [Select.bared, Select.template, Field.templates_allBared style fields,
      Select.templates_allBared style unions, Joins.template_bared style joins,
      Predicate.templates_allBared style true filter,
      Predicate.templates_allBared style true having]

theorem Select.templates_allBared (style : Style) : (selects : List Select) →
    Select.templates style (Select.allBared selects) = Select.templates style selects
  | [] => rfl
  | select :: rest => by
    simp only [Select.allBared, Select.templates, Select.template_bared style select,
      Select.templates_allBared style rest]

end

theorem Assignments.template_bared (style : Style) (assignments : Assignments) :
    Assignments.template style (Assignments.bared assignments) =
      Assignments.template style assignments := by
  simp [Assignments.template, Assignments.bared, Operand.template_bared, Function.comp_def]

mutual

theorem Row.template_bared (style : Style) : (row : Row) →
    row.bared.template style = row.template style
  | .assigned assignments => by
    simp [Row.bared, Row.template, Assignments.bared, Assignments.operands,
      Operand.template_bared, Function.comp_def]
  | .columns _ => rfl
  | .many rows => by
    simp only [Row.bared, Row.template, Row.templates_allBared style rows]

theorem Row.templates_allBared (style : Style) : (rows : List Row) →
    Row.templates style (Row.allBared rows) = Row.templates style rows
  | [] => rfl
  | row :: rest => by
    simp only [Row.allBared, Row.templates, Row.template_bared style row,
      Row.templates_allBared style rest]

end

mutual

theorem Row.columnNames_bared : (row : Row) → row.bared.columnNames = row.columnNames
  | .assigned assignments => by
    simp [Row.bared, Row.columnNames, Assignments.bared, Assignments.columns, Function.comp_def]
  | .columns _ => rfl
  | .many rows => Row.firstColumnNames_allBared rows

theorem Row.firstColumnNames_allBared : (rows : List Row) →
    Row.firstColumnNames (Row.allBared rows) = Row.firstColumnNames rows
  | [] => rfl
  | first :: _ => Row.columnNames_bared first

end

theorem Insert.template_bared (insert : Insert) : insert.bared.template = insert.template := by
  have body : insert.bared.body = insert.body := by
    unfold Insert.body Insert.bared
    cases insert.source with
    | none => simp only [Option.map_none, Row.template_bared]
    | some select => simp only [Option.map_some, Select.template_bared]
  have onDuplicate : insert.bared.onDuplicateClause = insert.onDuplicateClause := by
    have same := Assignments.template_bared insert.style insert.onDuplicate
    have empty : (Assignments.bared insert.onDuplicate).isEmpty = insert.onDuplicate.isEmpty :=
      List.isEmpty_map
    simp only [Insert.onDuplicateClause, Insert.bared, same, empty]
  have columns : insert.bared.row.columnNames = insert.row.columnNames :=
    insert.row.columnNames_bared
  simp only [Insert.template, body, onDuplicate, columns]
  rfl

namespace Statement

/-- The text a statement was frozen with. -/
def frozen : Statement → Option Rendered
  | .select stmt => Builder.frozen stmt
  | .insert stmt => Builder.frozen stmt
  | .update stmt => Builder.frozen stmt
  | .delete stmt => Builder.frozen stmt

/-- Rendering takes the kept text, or the layout of the clauses. -/
theorem render_eq (stmt : Statement) : stmt.render.1 = stmt.frozen.getD stmt.template.build := by
  cases stmt with
  | select stmt | insert stmt | update stmt | delete stmt =>
    cases kept : Builder.frozen stmt <;>
      simp [render, Builder.render, frozen, kept, Builder.build, template]

theorem frozen_withBared (stmt : Statement) : stmt.withBared.frozen = stmt.frozen := by
  cases stmt <;> rfl

theorem template_withBared (stmt : Statement) : stmt.withBared.template = stmt.template := by
  cases stmt with
  | select stmt =>
    have layout := Select.template_bared stmt.style stmt
    obtain ⟨⟩ := stmt
    exact layout
  | insert stmt => exact stmt.template_bared
  | update stmt =>
    simp only [withBared, template, Builder.template, Update.bared, Update.template,
      Joins.template_bared, Assignments.template_bared, Predicate.templates_allBared]
  | delete stmt =>
    simp only [withBared, template, Builder.template, Delete.bared, Delete.template,
      Predicate.templates_allBared]

/-- Two statements that differ at most in the styles of the selects nested in them, at any depth,
and in the texts these were frozen with, render to the same text with the same table. -/
theorem render_eq_of_withBared_eq {first second : Statement}
    (same : first.withBared = second.withBared) :
    first.render.1.sql = second.render.1.sql ∧
      first.render.1.params = second.render.1.params := by
  have frozen : first.frozen = second.frozen := by
    rw [← first.frozen_withBared, same, second.frozen_withBared]
  have template : first.template = second.template := by
    rw [← first.template_withBared, same, second.template_withBared]
  have rendered : first.render.1 = second.render.1 := by
    rw [first.render_eq, second.render_eq, frozen, template]
  rw [rendered]
  exact ⟨rfl, rfl⟩

/-- A page of staff in the style of a union, and the same page frozen in a style of its own: alone
they differ, and inside a statement they do not. -/
theorem render_eq_of_frozen_part :
    let page (style : Style) (rendered : Option Rendered) : Select :=
      { Select.draft "staff" style with
        filter := [.equal "id" (.value (.int 7))], page := some 2, rendered }
    let whole (part : Select) : Statement := .delete { Delete.draft "users" .standard with
      filter := [.among "id" [.select { Select.draft "all" .standard with unions := [part] }]] }
    let plain := page .standard none
    let foreign := page { Style.postgres with pageSize := 9 } (some ⟨"SELECT :p0;", ⟨[], 1⟩⟩)
    (Builder.render plain).1 ≠ (Builder.render foreign).1 ∧
      (whole plain).withBared = (whole foreign).withBared ∧
      (whole plain).render.1.sql = (whole foreign).render.1.sql ∧
      (whole plain).render.1.params.next = 1 := by
  intro page whole plain foreign
  have bared : (whole plain).withBared = (whole foreign).withBared := rfl
  have counters : (Builder.render plain).1.params.entries ≠
      (Builder.render foreign).1.params.entries := by decide
  refine ⟨?_, bared, (render_eq_of_withBared_eq bared).1, rfl⟩
  intro same
  exact counters (congrArg (·.params.entries) same)

end Statement

end SqlWright
