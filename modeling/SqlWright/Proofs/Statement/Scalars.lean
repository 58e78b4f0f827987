import SqlWright.Proofs.Statement.Lifecycle
import SqlWright.Proofs.Template.Bindings
/-! The scalars that a statement binds, read off its clauses in the order in which they are
written. The table of a rendered statement holds exactly these under its generated names. -/
namespace SqlWright

mutual

/-- The scalars of an operand in a value position. -/
def Operand.scalars : Operand → List Value
  | .value value => [value]
  | .fragment _ => []
  | .select select => select.scalars

def Operand.allScalars : List Operand → List Value
  | [] => []
  | operand :: rest => operand.scalars ++ Operand.allScalars rest

/-- The scalars of the first select of a list, if there is one. -/
def Operand.firstSelectScalars : List Operand → Option (List Value)
  | [] => none
  | .select select :: _ => some select.scalars
  | _ :: rest => Operand.firstSelectScalars rest

/-- The scalars of one term. A membership test with a select binds those of its first
select alone; a null test binds nothing, and an equality without parameters no scalar. -/
def Predicate.scalars (parameterized : Bool) : Predicate → List Value
  | .raw _ => []
  | .isNull _ => []
  | .equal _ (.value .null) => []
  | .equal _ (.value value) => if parameterized then [value] else []
  | .equal _ (.fragment _) => []
  | .equal _ (.select select) => select.scalars
  | .subSelect _ select => select.scalars
  | .among _ operands =>
    match Operand.firstSelectScalars operands with
    | some scalars => scalars
    | none => Operand.allScalars operands

def Predicate.allScalars (parameterized : Bool) : List Predicate → List Value
  | [] => []
  | predicate :: rest =>
    predicate.scalars parameterized ++ Predicate.allScalars parameterized rest

def Field.scalars : Field → List Value
  | .expression _ => []
  | .aliased .. => []
  | .subSelect _ select => select.scalars

def Field.allScalars : List Field → List Value
  | [] => []
  | field :: rest => field.scalars ++ Field.allScalars rest

def Join.scalars : Join → List Value
  | ⟨_, _, on⟩ => Predicate.allScalars false on

def Join.allScalars : List Join → List Value
  | [] => []
  | join :: rest => join.scalars ++ Join.allScalars rest

def Joins.scalars : Joins → List Value
  | ⟨_, typed⟩ => Join.allScalars typed

/-- Projection, union, joins, WHERE, HAVING. -/
def Select.scalars : Select → List Value
  | ⟨_, _, fields, _, joins, filter, _, having, _, _, _, unions, _, _⟩ =>
    Field.allScalars fields ++ Select.allScalars unions ++ joins.scalars
      ++ Predicate.allScalars true filter ++ Predicate.allScalars true having

def Select.allScalars : List Select → List Value
  | [] => []
  | select :: rest => select.scalars ++ Select.allScalars rest

end

def Assignments.scalars (assignments : Assignments) : List Value :=
  assignments.flatMap fun assignment => assignment.2.scalars

mutual

/-- The scalars of all leaves; a bare list of columns binds the column names. -/
def Row.scalars : Row → List Value
  | .assigned assignments => assignments.scalars
  | .columns names => names.map .text
  | .many rows => Row.allScalars rows

def Row.allScalars : List Row → List Value
  | [] => []
  | row :: rest => row.scalars ++ Row.allScalars rest

end

/-- A source select stands in the place of the rows. -/
def Insert.scalars (insert : Insert) : List Value :=
  (match insert.source with
    | some select => select.scalars
    | none => insert.row.scalars) ++ insert.onDuplicate.scalars

def Update.scalars (update : Update) : List Value :=
  update.joins.scalars ++ Assignments.scalars update.assignments
    ++ Predicate.allScalars true update.filter

def Delete.scalars (delete : Delete) : List Value := Predicate.allScalars true delete.filter

def Statement.scalars : Statement → List Value
  | .select stmt => stmt.scalars
  | .insert stmt => stmt.scalars
  | .update stmt => stmt.scalars
  | .delete stmt => stmt.scalars

namespace Template

variable {first second body : Template} {terms : List Template}

@[simp] theorem scalars_text (literal : String) : (text literal).scalars = [] := rfl

@[simp] theorem scalars_scalar (value : Value) : (scalar value).scalars = [value] := rfl

@[simp] theorem scalars_fragment (source : Fragment) : (fragment source).scalars = [] := rfl

@[simp] theorem scalars_append : (first ++ second).scalars = first.scalars ++ second.scalars := rfl

@[simp] theorem scalars_nested : (nested body).scalars = body.scalars := rfl

@[simp] theorem scalars_empty : empty.scalars = [] := rfl

@[simp] theorem scalars_parenthesized : (parenthesized body).scalars = body.scalars := by
  simp [parenthesized]

@[simp] theorem scalars_joined (separator : String) :
    (joined separator terms).scalars = terms.flatMap scalars := by
  fun_induction joined separator terms with
  | case1 => rfl
  | case2 last => simp
  | case3 first rest _ ih => simp [ih]

@[simp] theorem scalars_conditionClause (lead tail : String) :
    (conditionClause lead terms tail).scalars = terms.flatMap scalars := by
  unfold conditionClause
  split
  · next none => simp [List.isEmpty_iff.mp none]
  · simp

@[simp] theorem scalars_comparison (style : Style) (column : String) :
    (comparison style column body).scalars = body.scalars := by
  unfold comparison
  split <;> simp

@[simp] theorem scalars_selectComparison (style : Style) (column : String) :
    (selectComparison style column body).scalars = body.scalars := by
  simp [selectComparison]

@[simp] theorem scalars_nullTest (style : Style) (column : String) :
    (nullTest style column).scalars = [] := rfl

@[simp] theorem scalars_members (others : Nat) (select : Option Template) :
    (members others select terms).scalars = (select.map scalars).getD (terms.flatMap scalars) := by
  unfold members
  split
  · split
    · rfl
    · simp [scalars]
  · simp

@[simp] theorem scalars_projection : (projection terms).scalars = terms.flatMap scalars := by
  unfold projection
  split
  · next none => simp [List.isEmpty_iff.mp none]
  · simp

@[simp] theorem scalars_joinClause (kind : JoinKind) (target : String) :
    (joinClause kind target terms).scalars = terms.flatMap scalars := by
  simp only [joinClause]
  split <;> simp

@[simp] theorem scalars_sourceTable (table : String) (unionAll : Bool) :
    (sourceTable table unionAll terms).scalars = terms.flatMap scalars := by
  unfold sourceTable
  split
  · next none => simp [List.isEmpty_iff.mp none]
  · simp

@[simp] theorem scalars_columnClause (style : Style) (keyword : String) (columns : List String) :
    (columnClause style keyword columns).scalars = [] := by
  unfold columnClause
  split <;> rfl

@[simp] theorem scalars_commaJoins (targets : List String) : (commaJoins targets).scalars = [] := by
  unfold commaJoins
  split <;> rfl

@[simp] theorem scalars_intoClause (target : Option String) : (intoClause target).scalars = [] := by
  unfold intoClause
  split
  · split <;> rfl
  · rfl

@[simp] theorem scalars_limitClause (style : Style) (limit : Limit) (page : Option UInt64) :
    (limitClause style limit page).scalars = [] := by
  unfold limitClause
  split <;> rfl

end Template

mutual

theorem Operand.scalars_template (style : Style) :
    (operand : Operand) → (operand.template style).scalars = operand.scalars
  | .value _ => rfl
  | .fragment _ => rfl
  | .select select => by
    simp [Operand.template, Operand.scalars, Select.scalars_template style select]

theorem Operand.scalars_templates (style : Style) : (operands : List Operand) →
    (Operand.templates style operands).flatMap Template.scalars = Operand.allScalars operands
  | [] => rfl
  | operand :: rest => by
    simp [Operand.templates, Operand.allScalars, Operand.scalars_template style operand,
      Operand.scalars_templates style rest]

theorem Operand.scalars_firstSelect (style : Style) : (operands : List Operand) →
    (Operand.firstSelect style operands).map Template.scalars =
      Operand.firstSelectScalars operands
  | [] => rfl
  | .value _ :: rest => Operand.scalars_firstSelect style rest
  | .fragment _ :: rest => Operand.scalars_firstSelect style rest
  | .select select :: _ => by
    simp [Operand.firstSelect, Operand.firstSelectScalars, Select.scalars_template style select]

theorem Predicate.scalars_template (style : Style) (parameterized : Bool) :
    (predicate : Predicate) →
      (predicate.template style parameterized).scalars = predicate.scalars parameterized
  | .raw _ => rfl
  | .isNull _ => rfl
  | .equal _ (.value .null) => rfl
  | .equal _ (.value (.bool _)) | .equal _ (.value (.int _)) | .equal _ (.value (.float _))
  | .equal _ (.value (.text _)) => by
    cases parameterized <;> simp [Predicate.template, Predicate.scalars]
  | .equal _ (.fragment _) => by simp [Predicate.template, Predicate.scalars]
  | .equal _ (.select select) => by
    simp [Predicate.template, Predicate.scalars, Select.scalars_template style select]
  | .subSelect _ select => by
    simp [Predicate.template, Predicate.scalars, Select.scalars_template style select]
  | .among _ [] => rfl
  | .among _ (first :: rest) => by
    simp only [Predicate.template, Predicate.scalars, Template.scalars_append,
      Template.scalars_text, Template.scalars_parenthesized, Template.scalars_members,
      Operand.scalars_firstSelect style (first :: rest),
      Operand.scalars_templates style (first :: rest), List.nil_append]
    cases Operand.firstSelectScalars (first :: rest) <;> rfl

theorem Predicate.scalars_templates (style : Style) (parameterized : Bool) :
    (predicates : List Predicate) →
      (Predicate.templates style parameterized predicates).flatMap Template.scalars =
        Predicate.allScalars parameterized predicates
  | [] => rfl
  | predicate :: rest => by
    simp [Predicate.templates, Predicate.allScalars,
      Predicate.scalars_template style parameterized predicate,
      Predicate.scalars_templates style parameterized rest]

theorem Field.scalars_template (style : Style) :
    (field : Field) → (field.template style).scalars = field.scalars
  | .expression _ => rfl
  | .aliased .. => rfl
  | .subSelect _ select => by
    simp [Field.template, Field.scalars, Select.scalars_template style select]

theorem Field.scalars_templates (style : Style) : (fields : List Field) →
    (Field.templates style fields).flatMap Template.scalars = Field.allScalars fields
  | [] => rfl
  | field :: rest => by
    simp [Field.templates, Field.allScalars, Field.scalars_template style field,
      Field.scalars_templates style rest]

theorem Join.scalars_template (style : Style) :
    (join : Join) → (join.template style).scalars = join.scalars
  | ⟨_, _, on⟩ => by
    simp [Join.template, Join.scalars, Predicate.scalars_templates style false on]

theorem Join.scalars_templates (style : Style) : (joins : List Join) →
    (Join.templates style joins).flatMap Template.scalars = Join.allScalars joins
  | [] => rfl
  | join :: rest => by
    simp [Join.templates, Join.allScalars, Join.scalars_template style join,
      Join.scalars_templates style rest]

theorem Joins.scalars_template (style : Style) :
    (joins : Joins) → (joins.template style).scalars = joins.scalars
  | ⟨_, typed⟩ => by
    simp [Joins.template, Joins.scalars, Join.scalars_templates style typed]

theorem Select.scalars_template (style : Style) :
    (select : Select) → (select.template style).scalars = select.scalars
  | ⟨_, _, fields, _, joins, filter, _, having, _, _, _, unions, _, _⟩ => by
    simp [Select.template, Select.scalars, Field.scalars_templates style fields,
      Select.scalars_templates style unions, Joins.scalars_template style joins,
      Predicate.scalars_templates style true filter,
      Predicate.scalars_templates style true having]

theorem Select.scalars_templates (style : Style) : (selects : List Select) →
    (Select.templates style selects).flatMap Template.scalars = Select.allScalars selects
  | [] => rfl
  | select :: rest => by
    simp [Select.templates, Select.allScalars, Select.scalars_template style select,
      Select.scalars_templates style rest]

end

theorem Assignments.scalars_template (style : Style) (assignments : Assignments) :
    (Assignments.template style assignments).scalars = Assignments.scalars assignments := by
  simp [Assignments.template, Assignments.scalars, List.flatMap_map, Operand.scalars_template]

theorem Row.scalars_tuple (expressions : List Template) :
    (Row.tuple expressions).scalars = expressions.flatMap Template.scalars := by
  unfold Row.tuple
  split
  · next none => simp [List.isEmpty_iff.mp none]
  · simp

mutual

theorem Row.scalars_template (style : Style) :
    (row : Row) → (row.template style).scalars = row.scalars
  | .assigned assignments => by
    simp [Row.template, Row.scalars, Row.scalars_tuple, Assignments.scalars, Assignments.operands,
      List.flatMap_map, Operand.scalars_template]
  | .columns names => by
    simp [Row.template, Row.scalars, Row.scalars_tuple, List.flatMap_map, ← List.map_eq_flatMap]
  | .many rows => by
    simp [Row.template, Row.scalars, Row.scalars_templates style rows]

theorem Row.scalars_templates (style : Style) : (rows : List Row) →
    (Row.templates style rows).flatMap Template.scalars = Row.allScalars rows
  | [] => rfl
  | row :: rest => by
    simp [Row.templates, Row.allScalars, Row.scalars_template style row,
      Row.scalars_templates style rest]

end

theorem Insert.scalars_template (insert : Insert) :
    insert.template.scalars = insert.scalars := by
  have body : insert.body.scalars = match insert.source with
      | some select => select.scalars
      | none => insert.row.scalars := by
    unfold Insert.body
    cases insert.source with
    | none => simp [Row.scalars_template]
    | some select => simp [Select.scalars_template]
  have onDuplicate : insert.onDuplicateClause.scalars = insert.onDuplicate.scalars := by
    unfold Insert.onDuplicateClause
    split
    · next none => simp [List.isEmpty_iff.mp none, Assignments.scalars]
    · simp [Assignments.scalars_template]
  simp [Insert.template, Insert.scalars, body, onDuplicate]

theorem Statement.scalars_template (stmt : Statement) :
    stmt.template.scalars = stmt.scalars := by
  cases stmt with
  | select stmt => exact Select.scalars_template stmt.style stmt
  | insert stmt => exact Insert.scalars_template stmt
  | update stmt =>
    simp [Statement.template, Builder.template, Update.template, Statement.scalars, Update.scalars,
      Joins.scalars_template, Assignments.scalars_template, Predicate.scalars_templates]
  | delete stmt =>
    simp [Statement.template, Builder.template, Delete.template, Statement.scalars, Delete.scalars,
      Predicate.scalars_templates]

/-- The table of a rendered statement: no name stands twice, the counter is the number of
scalars, and the names of the generated shape are those from zero up to the counter, each
with its scalar. -/
theorem Statement.placeholders_of_render {stmt : Statement} (reachable : stmt.Reachable) :
    stmt.render.1.params.names.Nodup ∧
      stmt.render.1.params.next = stmt.scalars.length ∧
      stmt.render.1.params.generatedEntries = Placeholder.numbered 0 stmt.scalars := by
  rw [reachable.render_eq_build, ← stmt.scalars_template]
  exact ⟨stmt.template.sound_build.distinct, stmt.template.next_build,
    stmt.template.generatedEntries_build⟩

/-- A membership test that mixes a scalar with a select, next to an equality. -/
theorem Statement.placeholders_of_nested_render :
    let nested : Select := { Select.draft "b" .standard with
      filter := [.equal "x" (.value (.int 2))] }
    let stmt : Statement := .delete { Delete.draft "a" .standard with
      filter := [.equal "k" (.value (.int 1)), .among "id" [.value (.int 7), .select nested]] }
    stmt.Reachable ∧ stmt.render.1.params.next = 2 ∧
      stmt.render.1.params.generatedEntries = [(":p0", .int 1), (":p1", .int 2)] := by
  intro nested stmt
  have reachable : stmt.Reachable := Builder.Reachable.start rfl
  have spec := Statement.placeholders_of_render reachable
  exact ⟨reachable, spec.2.1, spec.2.2.trans (by decide)⟩

end SqlWright
