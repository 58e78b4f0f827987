import SqlWright.Keyed
import SqlWright.Pagination
import SqlWright.Template
/-! The parts that statements are made of. Selects stand inside operands, predicates,
projections, unions and joins, so these types are defined together. -/
namespace SqlWright

inductive JoinKind where
  | inner
  | left
  | right
  | full
  | fullOuter
  deriving DecidableEq

def JoinKind.keyword : JoinKind → String
  | .inner => "INNER JOIN"
  | .left => "LEFT JOIN"
  | .right => "RIGHT JOIN"
  | .full => "FULL JOIN"
  | .fullOuter => "FULL OUTER JOIN"

mutual

/-- What may stand where a scalar is expected. -/
inductive Operand where
  | value (value : Value)
  | fragment (fragment : Fragment)
  | select (select : Select)

/-- One term of a condition. A column text with a space in it is a left-hand side that
brings its own operator. -/
inductive Predicate where
  | raw (fragment : Fragment)
  | equal (column : String) (operand : Operand)
  | isNull (column : String)
  | among (column : String) (operands : List Operand)
  | subSelect (column : String) (select : Select)

/-- One column of a projection. -/
inductive Field where
  | expression (text : String)
  | aliased (column name : String)
  | subSelect (name : String) (select : Select)

structure Join where
  kind : JoinKind
  target : String
  on : List Predicate

/-- Tables joined by a comma, then those joined by a keyword. -/
structure Joins where
  comma : List String
  typed : List Join

/-- A select: the style it renders with when it stands alone, its clauses, and the text
it was frozen with. -/
structure Select where
  table : String
  style : Style
  fields : List Field
  into : Option String
  joins : Joins
  filter : List Predicate
  groupBy : List String
  having : List Predicate
  orderBy : List String
  limit : Limit
  page : Option UInt64
  unions : List Select
  unionAll : Bool
  rendered : Option Rendered

end

/-- Conditions joined by AND, keyed by column. -/
abbrev Predicates := List Predicate

/-- The columns of a projection, keyed by column or by the name of a sub-select. -/
abbrev Fields := List Field

/-- Columns with the operands assigned to them, keyed by column. -/
abbrev Assignments := List (String × Operand)

namespace Operand

def isNull : Operand → Bool
  | .value .null => true
  | _ => false

def isSelect : Operand → Bool
  | .select _ => true
  | _ => false

end Operand

namespace Predicate

/-- Equality in its usual form: with null it is a null test, with a select a comparison
with the select's row. -/
def eq (column : String) : Operand → Predicate
  | .value .null => .isNull column
  | .select select => .subSelect column select
  | operand => .equal column operand

def inSelect (column : String) (select : Select) : Predicate := .among column [.select select]

/-- The column a predicate is keyed by; raw conditions have none. -/
def key : Predicate → Option String
  | .raw _ => none
  | .equal column _ | .isNull column | .among column _ | .subSelect column _ => some column

end Predicate

namespace Predicates

def push (predicates : Predicates) (predicate : Predicate) : Predicates :=
  Keyed.put Predicate.key predicates predicate

def ofList (items : List Predicate) : Predicates := Keyed.putAll Predicate.key [] items

def merge (predicates additions : Predicates) : Predicates :=
  Keyed.merge Predicate.key predicates additions

/-- A raw condition; the empty text is no condition at all. -/
def ofText (text : String) : Predicates := if text = "" then [] else [.raw (.ofText text)]

end Predicates

/-- The column or name a field is keyed by; bare expressions have none. -/
def Field.key : Field → Option String
  | .expression _ => none
  | .aliased column _ => some column
  | .subSelect name _ => some name

namespace Fields

def push (fields : Fields) (field : Field) : Fields := Keyed.put Field.key fields field

def ofList (items : List Field) : Fields := Keyed.putAll Field.key [] items

def merge (fields additions : Fields) : Fields := Keyed.merge Field.key fields additions

end Fields

namespace Assignments

def key (assignment : String × Operand) : Option String := some assignment.1

def insert (assignments : Assignments) (column : String) (operand : Operand) : Assignments :=
  Keyed.put key assignments (column, operand)

def ofList (items : List (String × Operand)) : Assignments := Keyed.putAll key [] items

def merge (assignments additions : Assignments) : Assignments :=
  Keyed.merge key assignments additions

def columns (assignments : Assignments) : List String := assignments.map (·.1)

def operands (assignments : Assignments) : List Operand := assignments.map (·.2)

end Assignments

namespace Joins

def none : Joins := ⟨[], []⟩

/-- Add a comma-joined table, or forget all of them. -/
def addComma (joins : Joins) : Option String → Joins
  | some target => { joins with comma := joins.comma ++ [target] }
  | Option.none => { joins with comma := [] }

def add (joins : Joins) (join : Join) : Joins := { joins with typed := joins.typed ++ [join] }

end Joins

end SqlWright
