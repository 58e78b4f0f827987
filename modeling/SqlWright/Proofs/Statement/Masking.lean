import SqlWright.Proofs.Statement.Lifecycle
import SqlWright.Proofs.Template.Erasure
/-! Statements with their bound scalars masked. Two statements that are equal once masked
render to the same text and to tables that differ in the values of generated names at most. -/
namespace SqlWright

mutual

/-- An operand with its scalars masked, at any depth. -/
def Operand.masked : Operand → Operand
  | .value _ => .value .null
  | .fragment fragment => .fragment fragment
  | .select select => .select select.masked

def Operand.allMasked : List Operand → List Operand
  | [] => []
  | operand :: rest => operand.masked :: Operand.allMasked rest

/-- A term with its scalars masked. An equality stays with null or with something else, and
keeps its scalar where that is written as a literal. -/
def Predicate.masked (parameterized : Bool) : Predicate → Predicate
  | .raw fragment => .raw fragment
  | .isNull column => .isNull column
  | .equal column (.value .null) => .equal column (.value .null)
  | .equal column (.value value) =>
    .equal column (.value (if parameterized then .bool false else value))
  | .equal column (.fragment fragment) => .equal column (.fragment fragment)
  | .equal column (.select select) => .equal column (.select select.masked)
  | .subSelect column select => .subSelect column select.masked
  | .among column operands => .among column (Operand.allMasked operands)

def Predicate.allMasked (parameterized : Bool) : List Predicate → List Predicate
  | [] => []
  | predicate :: rest =>
    predicate.masked parameterized :: Predicate.allMasked parameterized rest

def Field.masked : Field → Field
  | .expression text => .expression text
  | .aliased column name => .aliased column name
  | .subSelect name select => .subSelect name select.masked

def Field.allMasked : List Field → List Field
  | [] => []
  | field :: rest => field.masked :: Field.allMasked rest

def Join.masked : Join → Join
  | ⟨kind, target, on⟩ => ⟨kind, target, Predicate.allMasked false on⟩

def Join.allMasked : List Join → List Join
  | [] => []
  | join :: rest => join.masked :: Join.allMasked rest

def Joins.masked : Joins → Joins
  | ⟨comma, typed⟩ => ⟨comma, Join.allMasked typed⟩

/-- A select with its scalars masked and without the text it was frozen with. -/
def Select.masked : Select → Select
  | ⟨table, style, fields, into, joins, filter, groupBy, having, orderBy, limit, page, unions,
      unionAll, _⟩ =>
    ⟨table, style, Field.allMasked fields, into, joins.masked, Predicate.allMasked true filter,
      groupBy, Predicate.allMasked true having, orderBy, limit, page, Select.allMasked unions,
      unionAll, none⟩

def Select.allMasked : List Select → List Select
  | [] => []
  | select :: rest => select.masked :: Select.allMasked rest

end

def Assignments.masked (assignments : Assignments) : Assignments :=
  assignments.map fun assignment => (assignment.1, assignment.2.masked)

mutual

/-- Rows with the scalars of their assignments masked; column names stay. -/
def Row.masked : Row → Row
  | .assigned assignments => .assigned assignments.masked
  | .columns names => .columns names
  | .many rows => .many (Row.allMasked rows)

def Row.allMasked : List Row → List Row
  | [] => []
  | row :: rest => row.masked :: Row.allMasked rest

end

def Insert.masked (insert : Insert) : Insert :=
  { insert with
    row := insert.row.masked
    source := insert.source.map Select.masked
    onDuplicate := Assignments.masked insert.onDuplicate
    rendered := none }

def Update.masked (update : Update) : Update :=
  { update with
    assignments := Assignments.masked update.assignments
    filter := Predicate.allMasked true update.filter
    joins := update.joins.masked
    rendered := none }

def Delete.masked (delete : Delete) : Delete :=
  { delete with
    filter := Predicate.allMasked true delete.filter
    rendered := none }

/-- A statement with every scalar masked that it binds: those of conditions, membership
tests, assignments and rows, in the statement and in the selects nested in it. -/
def Statement.masked : Statement → Statement
  | .select stmt => .select stmt.masked
  | .insert stmt => .insert stmt.masked
  | .update stmt => .update stmt.masked
  | .delete stmt => .delete stmt.masked

namespace Template

variable {first second body : Template} {terms : List Template}

@[simp] theorem erased_text (literal : String) : (text literal).erased = text literal := rfl

@[simp] theorem erased_scalar (value : Value) : (scalar value).erased = scalar .null := rfl

@[simp] theorem erased_fragment (source : Fragment) :
    (fragment source).erased = fragment source := rfl

@[simp] theorem erased_append : (first ++ second).erased = first.erased ++ second.erased := rfl

@[simp] theorem erased_nested : (nested body).erased = nested body.erased := rfl

@[simp] theorem erased_empty : empty.erased = empty := rfl

@[simp] theorem erased_parenthesized :
    (parenthesized body).erased = parenthesized body.erased := rfl

@[simp] theorem erased_joined (separator : String) :
    (joined separator terms).erased = joined separator (terms.map erased) := by
  induction terms with
  | nil => rfl
  | cons first rest ih =>
    cases rest with
    | nil => rfl
    | cons next others =>
      have step : (joined separator (next :: others)).erased =
          joined separator (next.erased :: others.map erased) := ih
      simp [joined, step]

@[simp] theorem onlyTerminators_erased (template : Template) :
    template.erased.onlyTerminators = template.onlyTerminators := by
  induction template with
  | append first second firstIh secondIh =>
    simp [erased, onlyTerminators, firstIh, secondIh]
  | nested body ih => exact ih
  | _ => rfl

@[simp] theorem isBlank_erased (template : Template) :
    template.erased.isBlank = template.isBlank := by
  induction template with
  | append first second firstIh secondIh => simp [erased, isBlank, firstIh, secondIh]
  | nested body ih => exact onlyTerminators_erased body
  | _ => rfl

@[simp] theorem erased_conditionClause (lead tail : String) :
    (conditionClause lead terms tail).erased = conditionClause lead (terms.map erased) tail := by
  cases terms <;> simp [conditionClause]

@[simp] theorem erased_comparison (style : Style) (column : String) :
    (comparison style column body).erased = comparison style column body.erased := by
  unfold comparison
  split <;> rfl

@[simp] theorem erased_selectComparison (style : Style) (column : String) :
    (selectComparison style column body).erased = selectComparison style column body.erased := rfl

@[simp] theorem erased_nullTest (style : Style) (column : String) :
    (nullTest style column).erased = nullTest style column := rfl

@[simp] theorem erased_members (others : Nat) (select : Option Template) :
    (members others select terms).erased =
      members others (select.map erased) (terms.map erased) := by
  cases select with
  | none => simp [members]
  | some select =>
    simp only [members, Option.map_some]
    split <;> rfl

@[simp] theorem erased_projection :
    (projection terms).erased = projection (terms.map erased) := by
  cases terms <;> simp [projection]

@[simp] theorem erased_joinClause (kind : JoinKind) (target : String) :
    (joinClause kind target terms).erased = joinClause kind target (terms.map erased) := by
  simp only [joinClause, ← erased_joined, isBlank_erased]
  split <;> rfl

@[simp] theorem erased_sourceTable (table : String) (unionAll : Bool) :
    (sourceTable table unionAll terms).erased =
      sourceTable table unionAll (terms.map erased) := by
  cases terms <;> simp [sourceTable]

@[simp] theorem erased_columnClause (style : Style) (keyword : String) (columns : List String) :
    (columnClause style keyword columns).erased = columnClause style keyword columns := by
  unfold columnClause
  split <;> rfl

@[simp] theorem erased_commaJoins (targets : List String) :
    (commaJoins targets).erased = commaJoins targets := by
  unfold commaJoins
  split <;> rfl

@[simp] theorem erased_intoClause (target : Option String) :
    (intoClause target).erased = intoClause target := by
  unfold intoClause
  split
  · split <;> rfl
  · rfl

@[simp] theorem erased_limitClause (style : Style) (limit : Limit) (page : Option UInt64) :
    (limitClause style limit page).erased = limitClause style limit page := by
  unfold limitClause
  split <;> rfl

end Template

theorem Operand.length_allMasked (operands : List Operand) :
    (Operand.allMasked operands).length = operands.length := by
  induction operands with
  | nil => rfl
  | cons operand rest ih => simp [Operand.allMasked, ih]

mutual

theorem Operand.erased_masked (style : Style) : (operand : Operand) →
    (operand.masked.template style).erased = (operand.template style).erased
  | .value _ => rfl
  | .fragment _ => rfl
  | .select select => by
    simp [Operand.masked, Operand.template, Select.erased_masked style select]

theorem Operand.erased_allMasked (style : Style) : (operands : List Operand) →
    (Operand.templates style (Operand.allMasked operands)).map Template.erased =
      (Operand.templates style operands).map Template.erased
  | [] => rfl
  | operand :: rest => by
    simp [Operand.allMasked, Operand.templates, Operand.erased_masked style operand,
      Operand.erased_allMasked style rest]

theorem Operand.erased_firstSelect (style : Style) : (operands : List Operand) →
    (Operand.firstSelect style (Operand.allMasked operands)).map Template.erased =
      (Operand.firstSelect style operands).map Template.erased
  | [] => rfl
  | .value _ :: rest => Operand.erased_firstSelect style rest
  | .fragment _ :: rest => Operand.erased_firstSelect style rest
  | .select select :: _ => by
    simp [Operand.allMasked, Operand.masked, Operand.firstSelect,
      Select.erased_masked style select]

theorem Predicate.erased_masked (style : Style) (parameterized : Bool) :
    (predicate : Predicate) →
      ((predicate.masked parameterized).template style parameterized).erased =
        (predicate.template style parameterized).erased
  | .raw _ => rfl
  | .isNull _ => rfl
  | .equal _ (.value .null) => rfl
  | .equal _ (.value (.bool _)) | .equal _ (.value (.int _)) | .equal _ (.value (.float _))
  | .equal _ (.value (.text _)) => by
    cases parameterized <;> simp [Predicate.masked, Predicate.template]
  | .equal _ (.fragment _) => rfl
  | .equal _ (.select select) => by
    simp [Predicate.masked, Predicate.template, Select.erased_masked style select]
  | .subSelect _ select => by
    simp [Predicate.masked, Predicate.template, Select.erased_masked style select]
  | .among _ [] => rfl
  | .among _ (first :: rest) => by
    have chosen := Operand.erased_firstSelect style (first :: rest)
    have all := Operand.erased_allMasked style (first :: rest)
    simp only [Operand.allMasked] at chosen all
    simp [Predicate.masked, Operand.allMasked, Predicate.template, Operand.length_allMasked, chosen,
      all]

theorem Predicate.erased_allMasked (style : Style) (parameterized : Bool) :
    (predicates : List Predicate) →
      (Predicate.templates style parameterized
        (Predicate.allMasked parameterized predicates)).map Template.erased =
        (Predicate.templates style parameterized predicates).map Template.erased
  | [] => rfl
  | predicate :: rest => by
    simp [Predicate.allMasked, Predicate.templates,
      Predicate.erased_masked style parameterized predicate,
      Predicate.erased_allMasked style parameterized rest]

theorem Field.erased_masked (style : Style) : (field : Field) →
    (field.masked.template style).erased = (field.template style).erased
  | .expression _ => rfl
  | .aliased .. => rfl
  | .subSelect _ select => by
    simp [Field.masked, Field.template, Select.erased_masked style select]

theorem Field.erased_allMasked (style : Style) : (fields : List Field) →
    (Field.templates style (Field.allMasked fields)).map Template.erased =
      (Field.templates style fields).map Template.erased
  | [] => rfl
  | field :: rest => by
    simp [Field.allMasked, Field.templates, Field.erased_masked style field,
      Field.erased_allMasked style rest]

theorem Join.erased_masked (style : Style) : (join : Join) →
    (join.masked.template style).erased = (join.template style).erased
  | ⟨_, _, on⟩ => by
    simp [Join.masked, Join.template, Predicate.erased_allMasked style false on]

theorem Join.erased_allMasked (style : Style) : (joins : List Join) →
    (Join.templates style (Join.allMasked joins)).map Template.erased =
      (Join.templates style joins).map Template.erased
  | [] => rfl
  | join :: rest => by
    simp [Join.allMasked, Join.templates, Join.erased_masked style join,
      Join.erased_allMasked style rest]

theorem Joins.erased_masked (style : Style) : (joins : Joins) →
    (joins.masked.template style).erased = (joins.template style).erased
  | ⟨_, typed⟩ => by
    simp [Joins.masked, Joins.template, Join.erased_allMasked style typed]

theorem Select.erased_masked (style : Style) : (select : Select) →
    (select.masked.template style).erased = (select.template style).erased
  | ⟨_, _, fields, _, joins, filter, _, having, _, _, _, unions, _, _⟩ => by
    simp [Select.masked, Select.template, Field.erased_allMasked style fields,
      Select.erased_allMasked style unions, Joins.erased_masked style joins,
      Predicate.erased_allMasked style true filter, Predicate.erased_allMasked style true having]

theorem Select.erased_allMasked (style : Style) : (selects : List Select) →
    (Select.templates style (Select.allMasked selects)).map Template.erased =
      (Select.templates style selects).map Template.erased
  | [] => rfl
  | select :: rest => by
    simp [Select.allMasked, Select.templates, Select.erased_masked style select,
      Select.erased_allMasked style rest]

end

theorem Assignments.erased_masked (style : Style) (assignments : Assignments) :
    (Assignments.template style (Assignments.masked assignments)).erased =
      (Assignments.template style assignments).erased := by
  simp [Assignments.template, Assignments.masked, Operand.erased_masked, Function.comp_def]

theorem Row.erased_tuple (expressions : List Template) :
    (Row.tuple expressions).erased = Row.tuple (expressions.map Template.erased) := by
  cases expressions <;> simp [Row.tuple]

mutual

theorem Row.erased_masked (style : Style) : (row : Row) →
    (row.masked.template style).erased = (row.template style).erased
  | .assigned assignments => by
    simp [Row.masked, Row.template, Row.erased_tuple, Assignments.masked, Assignments.operands,
      Operand.erased_masked, Function.comp_def]
  | .columns _ => rfl
  | .many rows => by
    simp [Row.masked, Row.template, Row.erased_allMasked style rows]

theorem Row.erased_allMasked (style : Style) : (rows : List Row) →
    (Row.templates style (Row.allMasked rows)).map Template.erased =
      (Row.templates style rows).map Template.erased
  | [] => rfl
  | row :: rest => by
    simp [Row.allMasked, Row.templates, Row.erased_masked style row,
      Row.erased_allMasked style rest]

end

mutual

theorem Row.columnNames_masked : (row : Row) → row.masked.columnNames = row.columnNames
  | .assigned assignments => by
    simp [Row.masked, Row.columnNames, Assignments.masked, Assignments.columns,
      Function.comp_def]
  | .columns _ => rfl
  | .many rows => Row.firstColumnNames_allMasked rows

theorem Row.firstColumnNames_allMasked : (rows : List Row) →
    Row.firstColumnNames (Row.allMasked rows) = Row.firstColumnNames rows
  | [] => rfl
  | first :: _ => Row.columnNames_masked first

end

theorem Insert.erased_masked (insert : Insert) :
    insert.masked.template.erased = insert.template.erased := by
  have body : insert.masked.body.erased = insert.body.erased := by
    unfold Insert.body Insert.masked
    cases insert.source with
    | none => simp [Row.erased_masked]
    | some select => simp [Select.erased_masked]
  have onDuplicate : insert.masked.onDuplicateClause.erased = insert.onDuplicateClause.erased := by
    have same := Assignments.erased_masked insert.style insert.onDuplicate
    unfold Insert.onDuplicateClause Insert.masked
    cases columns : insert.onDuplicate with
    | nil => rfl
    | cons first rest =>
      rw [columns] at same
      simp only [Assignments.masked, List.map_cons] at same
      simp [Assignments.masked, same]
  have columns : insert.masked.row.columnNames = insert.row.columnNames :=
    insert.row.columnNames_masked
  simp only [Insert.template, Template.erased_append, Template.erased_text, body, onDuplicate,
    columns]
  rfl

theorem Statement.erased_masked (stmt : Statement) :
    stmt.masked.template.erased = stmt.template.erased := by
  cases stmt with
  | select stmt =>
    obtain ⟨⟩ := stmt
    exact Select.erased_masked _ _
  | insert stmt => exact stmt.erased_masked
  | update stmt =>
    simp [Statement.masked, Statement.template, Builder.template, Update.masked, Update.template,
      Joins.erased_masked, Assignments.erased_masked, Predicate.erased_allMasked]
  | delete stmt =>
    simp [Statement.masked, Statement.template, Builder.template, Delete.masked, Delete.template,
      Predicate.erased_allMasked]

/-- Two statements that differ in bound scalars alone render to the same text. Their tables
have the same names in the same order and the same counter, and differ in the values of
generated names at most. -/
theorem Statement.render_eq_of_masked_eq {first second : Statement}
    (firstReachable : first.Reachable) (secondReachable : second.Reachable)
    (same : first.masked = second.masked) :
    first.render.1.sql = second.render.1.sql ∧
      first.render.1.params.names = second.render.1.params.names ∧
      first.render.1.params.next = second.render.1.params.next ∧
      List.Forall₂ (fun entry other : String × Value => entry.1 = other.1 ∧
        (Placeholder.isGenerated entry.1 = false → entry.2 = other.2))
        first.render.1.params.entries second.render.1.params.entries := by
  rw [firstReachable.render_eq_build, secondReachable.render_eq_build]
  have erased : first.template.erased = second.template.erased := by
    rw [← first.erased_masked, same, second.erased_masked]
  obtain ⟨firstText, firstTable⟩ := first.template.build_erased
  obtain ⟨secondText, secondTable⟩ := second.template.build_erased
  have tables : first.template.build.params.erased = second.template.build.params.erased := by
    rw [← firstTable, erased, secondTable]
  have counters : first.template.build.params.next = second.template.build.params.next := by
    injection tables
  refine ⟨?_, ?_, counters, Table.agree_of_erased_eq tables⟩
  · rw [← firstText, erased, secondText]
  · rw [← Table.names_erased, tables, Table.names_erased]

/-- One of two scalars is an attempt at more SQL; the other stands in a nested select. -/
theorem Statement.render_eq_of_hostile_scalar :
    let nested (id : Int64) : Select := { Select.draft "staff" .standard with
      filter := [.among "id" [.value (.int id), .value .null]] }
    let update (name : String) (id : Int64) : Statement :=
      .update { Update.draft "users" .standard with
        assignments := [("name", .value (.text name))]
        filter := [.subSelect "id" (nested id)] }
    (update "Ann" 1).Reachable ∧ (update ":p0; DROP TABLE users" 2).Reachable ∧
      (update "Ann" 1).masked = (update ":p0; DROP TABLE users" 2).masked ∧
      (update "Ann" 1).render.1.sql = (update ":p0; DROP TABLE users" 2).render.1.sql := by
  intro nested update
  have reachable : ∀ name id, (update name id).Reachable := fun _ _ =>
    Builder.Reachable.start rfl
  have masked : (update "Ann" 1).masked = (update ":p0; DROP TABLE users" 2).masked := rfl
  exact ⟨reachable _ _, reachable _ _, masked,
    (Statement.render_eq_of_masked_eq (reachable _ _) (reachable _ _) masked).1⟩

end SqlWright
