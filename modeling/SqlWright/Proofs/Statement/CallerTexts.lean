import SqlWright.Proofs.Statement.Lifecycle
/-! The texts in a statement that a caller has written: names, expressions, literals of join
conditions, limits and fragments. What the caller binds is not among them. -/
namespace SqlWright

/-- A demand on caller-written texts, and one on fragments. -/
structure TextCheck where
  text : String → Bool
  fragment : Fragment → Bool

variable (check : TextCheck)

def Limit.passes : Limit → Bool
  | .raw text => check.text text
  | .unset | .count _ => true

/-- A limit clause holds the text that its caller wrote, or numerals. -/
theorem paginate_cases {style : Style} {limit : Limit} {page : Option UInt64} {body : String}
    (written : paginate limit page style = some body) :
    limit = .raw body ∨ (∃ n : Nat, body = toString n) ∨
      ∃ size offset : Nat, body = toString offset ++ ", " ++ toString size ∨
        body = toString size ++ " OFFSET " ++ toString offset := by
  obtain ⟨window, chosen, rfl⟩ := Option.map_eq_some_iff.mp written
  have paged (size offset : UInt64) :
      ∃ size' offset' : Nat, (Window.page size offset).text style.limitForm =
          toString offset' ++ ", " ++ toString size' ∨
        (Window.page size offset).text style.limitForm =
          toString size' ++ " OFFSET " ++ toString offset' := by
    refine ⟨size.toNat, offset.toNat, ?_⟩
    cases form : style.limitForm with
    | offsetComma => exact .inl rfl
    | offsetKeyword => exact .inr rfl
  have chosenPage {size : UInt64} {offset : UInt64 → UInt64}
      (isPage : page.map (fun page => Window.page size (offset page)) = some window) :
      ∃ offset, window = .page size offset := by
    obtain ⟨page, _, rfl⟩ := Option.map_eq_some_iff.mp isPage
    exact ⟨_, rfl⟩
  cases limit with
  | unset =>
    obtain ⟨offset, rfl⟩ := chosenPage chosen
    exact .inr (.inr (paged _ _))
  | raw text =>
    simp only [Window.select] at chosen
    split at chosen
    · obtain ⟨offset, rfl⟩ := chosenPage chosen
      exact .inr (.inr (paged _ _))
    · cases chosen
      exact .inl rfl
  | count n =>
    cases page with
    | none =>
      cases chosen
      exact .inr (.inl ⟨_, rfl⟩)
    | some page =>
      cases chosen
      exact .inr (.inr (paged _ _))

mutual

/-- Whether all texts in an operand pass, at any depth. -/
def Operand.passes : Operand → Bool
  | .value _ => true
  | .fragment fragment => check.fragment fragment
  | .select select => select.passes

def Operand.allPass : List Operand → Bool
  | [] => true
  | operand :: rest => operand.passes && Operand.allPass rest

/-- Without parameters the scalar of an equality is written, and is a text as well. -/
def Predicate.passes (parameterized : Bool) : Predicate → Bool
  | .raw fragment => check.fragment fragment
  | .isNull column => check.text column
  | .equal column (.value value) =>
    check.text column && (parameterized || check.text value.literal)
  | .equal column (.fragment fragment) => check.text column && check.fragment fragment
  | .equal column (.select select) => check.text column && select.passes
  | .among column operands => check.text column && Operand.allPass operands
  | .subSelect column select => check.text column && select.passes

def Predicate.allPass (parameterized : Bool) : List Predicate → Bool
  | [] => true
  | predicate :: rest =>
    predicate.passes parameterized && Predicate.allPass parameterized rest

def Field.passes : Field → Bool
  | .expression text => check.text text
  | .aliased column name => check.text column && check.text name
  | .subSelect name select => check.text name && select.passes

def Field.allPass : List Field → Bool
  | [] => true
  | field :: rest => field.passes && Field.allPass rest

def Join.passes : Join → Bool
  | ⟨_, target, on⟩ => check.text target && Predicate.allPass false on

def Join.allPass : List Join → Bool
  | [] => true
  | join :: rest => join.passes && Join.allPass rest

def Joins.passes : Joins → Bool
  | ⟨comma, typed⟩ => comma.all check.text && Join.allPass typed

/-- Whether all texts in a select pass. The text it was frozen with is not written, so it is
not asked. -/
def Select.passes : Select → Bool
  | ⟨table, _, fields, into, joins, filter, groupBy, having, orderBy, limit, _, unions, _, _⟩ =>
    check.text table && Field.allPass fields && into.all check.text && joins.passes
      && Predicate.allPass true filter && groupBy.all check.text
      && Predicate.allPass true having && orderBy.all check.text && limit.passes check
      && Select.allPass unions

def Select.allPass : List Select → Bool
  | [] => true
  | select :: rest => select.passes && Select.allPass rest

end

def Assignments.passes (assignments : Assignments) : Bool :=
  assignments.all fun assignment => check.text assignment.1 && assignment.2.passes check

mutual

/-- Whether all texts in the values of a row pass, the names of its columns apart. -/
def Row.valuesPass : Row → Bool
  | .assigned assignments => assignments.all fun assignment => assignment.2.passes check
  | .columns _ => true
  | .many rows => Row.allValuesPass rows

def Row.allValuesPass : List Row → Bool
  | [] => true
  | row :: rest => row.valuesPass && Row.allValuesPass rest

end

/-- The columns are written for the first row alone, and the names in a row of columns are bound
for every row. -/
def Insert.passes (insert : Insert) : Bool :=
  check.text insert.table && insert.row.columnNames.all check.text && insert.row.valuesPass check
    && insert.source.all (Select.passes check) && Assignments.passes check insert.onDuplicate

def Update.passes (update : Update) : Bool :=
  check.text update.table && update.joins.passes check
    && Assignments.passes check update.assignments && Predicate.allPass check true update.filter

def Delete.passes (delete : Delete) : Bool :=
  check.text delete.table && Predicate.allPass check true delete.filter

/-- Whether all caller-written texts pass that a statement can write. -/
def Statement.writtenPass : Statement → Bool
  | .select stmt => stmt.passes check
  | .insert stmt => stmt.passes check
  | .update stmt => stmt.passes check
  | .delete stmt => stmt.passes check

end SqlWright
