import SqlWright.Statement.Clause
/-! The templates of operands, conditions, projections, joins and selects. A nested select
is laid out in the style of the statement around it: its own style and the text it was
frozen with play no part. -/
namespace SqlWright

/-- Left-hand sides that bring their own operator. -/
def hasSpace (column : String) : Bool := column.toList.any (· = ' ')

/-- A list of columns behind a keyword; nothing if there are none. -/
def columnClause (style : Style) (keyword : String) (columns : List String) : Template :=
  if columns.isEmpty then .empty
  else .text ("\r\n" ++ keyword ++ " " ++ ",".intercalate (columns.map style.quoted) ++ " ")

def commaJoins (targets : List String) : Template :=
  if targets.isEmpty then .empty else .text ("," ++ ",".intercalate targets ++ " ")

/-- The terms of a condition behind its keyword; nothing if there are no terms. -/
def conditionClause (lead : String) (terms : List Template) (tail : String) : Template :=
  if terms.isEmpty then .empty else .text lead ++ .joined " AND " terms ++ .text tail

/-- A column compared with an already written right-hand side. -/
def comparison (style : Style) (column : String) (right : Template) : Template :=
  if hasSpace column then .text (column ++ " ") ++ right
  else .text (style.quoted column ++ "=") ++ right

/-- A column compared with the row of a select. -/
def selectComparison (style : Style) (column : String) (body : Template) : Template :=
  .text (if hasSpace column then column ++ " " else style.quoted column ++ " = ")
    ++ .parenthesized (.nested body)

def nullTest (style : Style) (column : String) : Template :=
  .text (if hasSpace column then column else style.quoted column ++ " IS NULL")

/-- The inside of a membership test: one select alone if there is one, else all operands,
which are laid out only then. -/
@[macro_inline]
def members (others : Nat) (select : Option Template) (operands : List Template) : Template :=
  match select with
  | some select => if others = 0 then select else .notice others ++ select
  | none => .joined "," operands

/-- The columns of a select; all of them if none are named. -/
def projection (columns : List Template) : Template :=
  if columns.isEmpty then .text "*" else .joined "," columns

/-- The ON part of a join is left out when it would write nothing. -/
def joinClause (kind : JoinKind) (target : String) (terms : List Template) : Template :=
  let on := Template.joined " AND " terms
  .text ("\r\n" ++ kind.keyword ++ " " ++ target)
    ++ (if on.isBlank then on else .text " ON " ++ on ++ .text " ") ++ .text " "

/-- The selected table, or the union of other selects under its name. -/
def sourceTable (table : String) (unionAll : Bool) (parts : List Template) : Template :=
  if parts.isEmpty then .text table
  else
    let separator := if unionAll then "\r\n) UNION ALL (\r\n" else "\r\n) UNION DISTINCT (\r\n"
    .text "((" ++ .joined separator parts ++ .text (")) AS " ++ table)

def intoClause : Option String → Template
  | some target => if target = "" then .empty else .text ("\r\nINTO " ++ target ++ " ")
  | none => .empty

def limitClause (style : Style) (limit : Limit) (page : Option UInt64) : Template :=
  match paginate limit page style with
  | some body => .text ("\r\nLIMIT " ++ body ++ " ")
  | none => .empty

mutual

/-- An operand in a value position: scalars are bound, selects stand in parentheses. -/
def Operand.template (style : Style) : Operand → Template
  | .value value => .scalar value
  | .fragment fragment => .fragment fragment
  | .select select => .parenthesized (.nested (select.template style))

def Operand.templates (style : Style) : List Operand → List Template
  | [] => []
  | operand :: rest => operand.template style :: Operand.templates style rest

/-- The first select of a list, which alone makes up the membership test. -/
def Operand.firstSelect (style : Style) : List Operand → Option Template
  | [] => none
  | .select select :: _ => some (.nested (select.template style))
  | _ :: rest => Operand.firstSelect style rest

/-- One term of a condition. Without parameters the scalar of an equality is written as
its literal, so that a join can compare two columns. -/
def Predicate.template (style : Style) (parameterized : Bool) : Predicate → Template
  | .raw fragment => .fragment fragment
  | .isNull column => nullTest style column
  | .equal column (.value .null) => nullTest style column
  | .equal column (.select select) => selectComparison style column (select.template style)
  | .equal column (.value value) =>
    comparison style column (if parameterized then .scalar value else .text value.literal)
  | .equal column (.fragment fragment) => comparison style column (.fragment fragment)
  | .subSelect column select => selectComparison style column (select.template style)
  | .among _ [] => .text "1=0"
  | .among column (first :: rest) =>
    .text (style.quoted column ++ " IN ")
      ++ .parenthesized (members rest.length (Operand.firstSelect style (first :: rest))
        (Operand.templates style (first :: rest)))

def Predicate.templates (style : Style) (parameterized : Bool) : List Predicate → List Template
  | [] => []
  | predicate :: rest =>
    predicate.template style parameterized :: Predicate.templates style parameterized rest

def Field.template (style : Style) : Field → Template
  | .expression text => .text text
  | .aliased column name => .text (style.quoted column ++ " AS " ++ style.quoted name)
  | .subSelect name select =>
    .parenthesized (.nested (select.template style)) ++ .text (" AS " ++ style.quoted name)

def Field.templates (style : Style) : List Field → List Template
  | [] => []
  | field :: rest => field.template style :: Field.templates style rest

def Join.template (style : Style) : Join → Template
  | ⟨kind, target, on⟩ => joinClause kind target (Predicate.templates style false on)

def Join.templates (style : Style) : List Join → List Template
  | [] => []
  | join :: rest => join.template style :: Join.templates style rest

def Joins.template (style : Style) : Joins → Template
  | ⟨comma, typed⟩ => commaJoins comma ++ .joined "" (Join.templates style typed)

/-- A select with its terminator, laid out in the given style. -/
def Select.template (style : Style) : Select → Template
  | ⟨table, _, fields, into, joins, filter, groupBy, having, orderBy, limit, page, unions,
      unionAll, _⟩ =>
    .text "SELECT "
      ++ projection (Field.templates style fields)
      ++ intoClause into ++ .text " FROM "
      ++ sourceTable table unionAll (Select.templates style unions)
      ++ joins.template style
      ++ conditionClause "\r\nWHERE " (Predicate.templates style true filter) ""
      ++ columnClause style "GROUP BY" groupBy
      ++ conditionClause "\r\nHAVING " (Predicate.templates style true having) " "
      ++ columnClause style "ORDER BY" orderBy
      ++ limitClause style limit page
      ++ .text ";"

/-- The parts of a union, each merged into the statement around it. -/
def Select.templates (style : Style) : List Select → List Template
  | [] => []
  | select :: rest => .nested (select.template style) :: Select.templates style rest

end

/-- The pairs of a SET or ON DUPLICATE KEY UPDATE list. -/
def Assignments.template (style : Style) (assignments : Assignments) : Template :=
  .joined "," (assignments.map fun assignment =>
    .text (style.quoted assignment.1 ++ "=") ++ assignment.2.template style)

end SqlWright
