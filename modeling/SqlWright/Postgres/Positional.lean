import SqlWright.Placeholder
import SqlWright.Failure
/-! Rewriting named placeholders to numbered ones. The text is split into quoted regions,
double colons, placeholders and single characters; only placeholders change. -/
namespace SqlWright.Postgres

/-- A piece of SQL text. -/
inductive Lexeme where
  /-- A region from a quote character to the next one like it, both included. -/
  | quoted (region : List Char)
  | doubleColon
  /-- A colon and a name, which is kept without the colon. -/
  | placeholder (name : List Char)
  | char (c : Char)
  deriving DecidableEq

def isQuote (c : Char) : Bool := c = '\'' || c = '"' || c = '\x60'

def isNameStart (c : Char) : Bool := c.isAlpha || c = '_'

def isNamePart (c : Char) : Bool := c.isAlphanum || c = '_'

/-- The text up to and including the next quote character, and what follows; an open
region takes the whole text. -/
def spanQuoted (quote : Char) : List Char → List Char × List Char
  | [] => ([], [])
  | c :: rest =>
    if c = quote then ([c], rest)
    else
      let (region, rest) := spanQuoted quote rest
      (c :: region, rest)

private theorem spanQuoted_length (quote : Char) (text : List Char) :
    (spanQuoted quote text).2.length ≤ text.length := by
  induction text with
  | nil => simp [spanQuoted]
  | cons c rest ih =>
    unfold spanQuoted
    split
    · simp
    · simpa using Nat.le_succ_of_le ih

private theorem dropWhile_length (keep : Char → Bool) (text : List Char) :
    (text.dropWhile keep).length ≤ text.length := by
  induction text with
  | nil => simp
  | cons c rest ih =>
    rw [List.dropWhile_cons]
    split
    · simpa using Nat.le_succ_of_le ih
    · simp

/-- Split a text from left to right, each piece as long as it can be. -/
def scan : List Char → List Lexeme
  | [] => []
  | c :: rest =>
    if isQuote c then
      .quoted (c :: (spanQuoted c rest).1) :: scan (spanQuoted c rest).2
    else if c = ':' then
      match rest with
      | [] => [.char ':']
      | next :: tail =>
        if next = ':' then .doubleColon :: scan tail
        else if isNameStart next then
          .placeholder (next :: tail.takeWhile isNamePart) :: scan (tail.dropWhile isNamePart)
        else .char ':' :: scan (next :: tail)
    else .char c :: scan rest
termination_by text => text.length
decreasing_by
  · have := spanQuoted_length c rest
    simp only [List.length_cons]; omega
  · simp only [List.length_cons]; omega
  · have := dropWhile_length isNamePart tail
    simp only [List.length_cons]; omega
  · simp
  · simp

/-- A piece as it stands in the text. -/
def Lexeme.text : Lexeme → List Char
  | .quoted region => region
  | .doubleColon => [':', ':']
  | .placeholder name => ':' :: name
  | .char c => [c]

/-- Write pieces with the k-th distinct name as `$k`. The names met so far come with their
values; a name without a value in the table is an error. -/
def number (table : Table) : List (String × Value) → List Lexeme →
    Except Failure (List Char × List (String × Value))
  | bound, [] => .ok ([], bound)
  | bound, .placeholder name :: rest => do
    let name := String.ofList name
    let (position, bound) ← match bound.findIdx? fun entry => entry.1 = name with
      | some position => pure (position, bound)
      | none => match table.get? name with
        | some value => pure (bound.length, bound ++ [(name, value)])
        | none => throw (.usage (.unboundPlaceholder name))
    let (text, bound) ← number table bound rest
    pure ('$' :: Nat.toDigits 10 (position + 1) ++ text, bound)
  | bound, lexeme :: rest => do
    let (text, bound) ← number table bound rest
    pure (lexeme.text ++ text, bound)

/-- SQL with numbered placeholders, and the values in the order of their numbers. -/
def toPositional (sql : String) (table : Table) : Except Failure (String × List Value) := do
  let (text, bound) ← number table [] (scan sql.toList)
  pure (String.ofList text, bound.map (·.2))

end SqlWright.Postgres
