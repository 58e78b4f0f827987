import SqlWright.Fragment
/-! What a statement writes, before its placeholders are numbered: literal text, scalars to
be bound, caller-written fragments, and merged statements that render with a forked
table of their own. -/
namespace SqlWright

inductive Template where
  | text (literal : String)
  | scalar (value : Value)
  | fragment (source : Fragment)
  /-- Operands that a membership test passed over; nothing is written for them. -/
  | notice (dropped : Nat)
  | append (first second : Template)
  /-- A whole statement inside another one; its terminators are not written. -/
  | nested (body : Template)

/-- A statement's text with the table of its placeholders. -/
structure Rendered where
  sql : String
  params : Table
  deriving DecidableEq

/-- The text without the semicolons at its end. -/
def dropTerminators (text : String) : String :=
  String.ofList ((text.toList.reverse.dropWhile (· = ';')).reverse)

namespace Template

instance : Append Template := ⟨append⟩
instance : Inhabited Template := ⟨text ""⟩

def empty : Template := .text ""

def parenthesized (body : Template) : Template := .text "(" ++ body ++ .text ")"

/-- Templates with a separator between them. -/
def joined (separator : String) : List Template → Template
  | [] => empty
  | [last] => last
  | first :: rest => first ++ .text separator ++ joined separator rest

/-- Write a template over a table: each scalar takes the next generated name, a fragment
brings its own names, and a nested statement numbers on in a fork that is absorbed. -/
def emit : Template → Table → String × Table
  | .text literal, table => (literal, table)
  | .scalar value, table => table.allocate value
  | .fragment source, table => (source.text, table.setAll source.params.entries)
  | .notice _, table => ("", table)
  | .append first second, table =>
    let (before, table) := first.emit table
    let (after, table) := second.emit table
    (before ++ after, table)
  | .nested body, table =>
    let (sql, child) := body.emit table.fork
    (dropTerminators sql, table.absorb child)

/-- Write a template as a statement of its own. -/
def build (template : Template) : Rendered :=
  let (sql, params) := template.emit {}
  ⟨sql, params⟩

/-- The numbers of passed-over operands, in the order of the text. -/
def notices : Template → List Nat
  | .notice dropped => [dropped]
  | .append first second => first.notices ++ second.notices
  | .nested body => body.notices
  | .text _ | .scalar _ | .fragment _ => []

/-- Nothing but semicolons is written, whatever the table. -/
def onlyTerminators : Template → Bool
  | .text literal => literal.toList.all (· = ';')
  | .scalar _ => false
  | .fragment source => source.text.toList.all (· = ';')
  | .notice _ => true
  | .append first second => first.onlyTerminators && second.onlyTerminators
  | .nested body => body.onlyTerminators

/-- Nothing at all is written, whatever the table. -/
def isBlank : Template → Bool
  | .text literal => literal.isEmpty
  | .scalar _ => false
  | .fragment source => source.text.isEmpty
  | .notice _ => true
  | .append first second => first.isBlank && second.isBlank
  | .nested body => body.onlyTerminators

end Template

end SqlWright
