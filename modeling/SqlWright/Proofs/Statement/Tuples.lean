import SqlWright.Proofs.Statement.Scalars
import SqlWright.Proofs.Template.Written
/-! Which expression of an insert stands under which name of its column list. The column list is
that of the first row, and every row writes its values in its own order. -/
namespace SqlWright

namespace Assignments

/-- The operand that a row assigns to a column. -/
def operand? (row : Assignments) (name : String) : Option Operand :=
  (row.find? (·.1 = name)).map (·.2)

/-- No column is assigned twice, since assigning it again replaces its operand. -/
theorem nodup_columns_ofList (items : List (String × Operand)) :
    (ofList items).columns.Nodup := by
  have none : Keyed.Distinct key [] := List.nodup_nil
  exact Keyed.distinct_iff_nodup_names.mp (none.putAll items)

theorem operand?_eq_some {row : Assignments} (distinct : row.columns.Nodup) {name : String}
    {operand : Operand} (member : (name, operand) ∈ row) : row.operand? name = some operand := by
  rw [operand?, (Keyed.find?_eq_some_iff distinct).2 ⟨member, rfl⟩]
  rfl

end Assignments

namespace Row

/-- The text of one leaf with these expressions. -/
def tupleText (expressions : List String) : String :=
  if expressions.isEmpty then "" else "(" ++ ",".intercalate expressions ++ ")"

/-- A text is the rendering of the operand that a row assigns to a column. -/
def StandsUnder (style : Style) (params : Table) (row : Assignments) (name text : String) :
    Prop :=
  ∃ operand, row.operand? name = some operand ∧
    (operand.template style).WrittenIn params text

/-- Every expression is that of the column above it. -/
def StandsAligned (style : Style) (params : Table) (columns : List String) (row : Assignments)
    (expressions : List String) : Prop :=
  List.Forall₂ (StandsUnder style params row) columns expressions

/-- The expressions of a tuple are the renderings of a row's operands, in the row's own order. -/
def WritesOwn (style : Style) (params : Table) (row : Assignments) (expressions : List String) :
    Prop :=
  List.Forall₂ (fun assignment text => (assignment.2.template style).WrittenIn params text)
    row expressions

/-- Wherever a row has a column at the position that the column list has it at, the expression
there is that of the column. -/
def AgreesWhereListed (style : Style) (params : Table) (columns : List String)
    (row : Assignments) (expressions : List String) : Prop :=
  ∀ (position : Nat) (name : String), columns[position]? = some name →
    row.columns[position]? = some name →
    ∃ text, expressions[position]? = some text ∧ StandsUnder style params row name text

/-- What the tuple of a row is under a column list of as many columns. -/
structure TupleUnder (style : Style) (params : Table) (columns : List String) (row : Assignments)
    (expressions : List String) : Prop where
  own : WritesOwn style params row expressions
  complete : expressions.length = columns.length
  agrees : AgreesWhereListed style params columns row expressions
  aligned : row.columns = columns → StandsAligned style params columns row expressions

variable {style : Style} {params : Table} {text : String}

theorem exists_tuple {expressions : List Template}
    (written : (tuple expressions).WrittenIn params text) :
    ∃ texts, text = tupleText texts ∧
      List.Forall₂ (Template.WrittenIn params) expressions texts := by
  cases expressions with
  | nil => exact ⟨[], written.eq_literal, .nil⟩
  | cons first rest =>
    have shape : tuple (first :: rest) = .parenthesized (.joined "," (first :: rest)) := rfl
    rw [shape] at written
    obtain ⟨_, rfl, inside⟩ := written.exists_parenthesized
    obtain ⟨texts, rfl, each⟩ := inside.exists_joined
    refine ⟨texts, ?_, each⟩
    obtain ⟨firstText, restTexts, -, -, rfl⟩ := List.forall₂_cons_left_iff.mp each
    rfl

theorem templates_eq_map (style : Style) (rows : List Row) :
    templates style rows = rows.map (template style) := by
  induction rows with
  | nil => rfl
  | cons row rest ih => simp [templates, ih]

theorem exists_own {row : Assignments}
    (written : ((assigned row).template style).WrittenIn params text) :
    ∃ expressions, text = tupleText expressions ∧ WritesOwn style params row expressions := by
  simp only [template] at written
  obtain ⟨texts, rfl, each⟩ := exists_tuple written
  rw [Assignments.operands, List.map_map, List.forall₂_map_left_iff] at each
  exact ⟨texts, rfl, each⟩

/-- Texts that are tuples each, of one row each. -/
theorem exists_tuplesOf {Item : Type} {items : List Item} {texts : List String}
    {written : Item → String → Prop} {own : Item → List String → Prop}
    (each : List.Forall₂ written items texts)
    (split : ∀ item ∈ items, ∀ text, written item text →
      ∃ expressions, text = tupleText expressions ∧ own item expressions) :
    ∃ tuples : List (List String),
      texts = tuples.map tupleText ∧ List.Forall₂ own items tuples := by
  induction each with
  | nil => exact ⟨[], rfl, .nil⟩
  | cons itemWritten _ ih =>
    obtain ⟨splitItem, splitRest⟩ := List.forall_mem_cons.mp split
    obtain ⟨expressions, rfl, itemOwn⟩ := splitItem _ itemWritten
    obtain ⟨tuples, rfl, restOwn⟩ := ih splitRest
    exact ⟨expressions :: tuples, rfl, .cons itemOwn restOwn⟩

/-- Rows stand as one tuple each, with commas between them. -/
theorem exists_tuples {rows : List Assignments}
    (written : ((many (rows.map .assigned)).template style).WrittenIn params text) :
    ∃ tuples : List (List String), text = ",".intercalate (tuples.map tupleText) ∧
      List.Forall₂ (WritesOwn style params) rows tuples := by
  simp only [template, templates_eq_map] at written
  obtain ⟨texts, rfl, each⟩ := written.exists_joined
  rw [List.map_map, List.forall₂_map_left_iff] at each
  obtain ⟨tuples, rfl, own⟩ := exists_tuplesOf each fun _ _ _ rowWritten => exists_own rowWritten
  exact ⟨tuples, rfl, own⟩

/-- The expression of a column with a scalar is a name that the table holds the scalar under. -/
theorem StandsUnder.mem_entries {row : Assignments} {name : String} {value : Value}
    (stands : StandsUnder style params row name text)
    (assigned : row.operand? name = some (.value value)) : (text, value) ∈ params.entries := by
  obtain ⟨operand, found, written⟩ := stands
  obtain rfl := Option.some.inj (found.symm.trans assigned)
  simp only [Operand.template] at written
  obtain ⟨_, -, held⟩ := Template.writtenIn_scalar.mp written
  exact held

/-- Under the row's own columns every expression is aligned. -/
theorem WritesOwn.standsAligned {row : Assignments} {expressions : List String}
    (own : WritesOwn style params row expressions) (distinct : row.columns.Nodup) :
    StandsAligned style params row.columns row expressions := by
  unfold StandsAligned Assignments.columns
  rw [List.forall₂_map_left_iff]
  refine List.forall₂_iff_get.mpr ⟨own.length_eq, fun index inside insideToo => ?_⟩
  have assigned := Assignments.operand?_eq_some distinct (List.get_mem row ⟨index, inside⟩)
  exact ⟨_, assigned, own.get inside insideToo⟩

theorem StandsAligned.agreesWhereListed {row : Assignments} {expressions : List String}
    (aligned : StandsAligned style params row.columns row expressions) (columns : List String) :
    AgreesWhereListed style params columns row expressions := by
  intro position name _ placed
  obtain ⟨inside, rfl⟩ := List.getElem?_eq_some_iff.mp placed
  have insideToo : position < expressions.length := aligned.length_eq ▸ inside
  exact ⟨expressions[position], List.getElem?_eq_getElem insideToo, aligned.get inside insideToo⟩

theorem WritesOwn.tupleUnder {row : Assignments} {expressions columns : List String}
    (own : WritesOwn style params row expressions) (distinct : row.columns.Nodup)
    (same : row.columns.Perm columns) : TupleUnder style params columns row expressions where
  own := own
  complete := (own.standsAligned distinct).length_eq.symm.trans same.length_eq
  agrees := (own.standsAligned distinct).agreesWhereListed columns
  aligned ordered := ordered ▸ own.standsAligned distinct

end Row

namespace Insert

/-- The text of an insert with a column list and tuples of expressions. What follows the
tuples is its clause for rows that are already there. -/
def SpelledWith (insert : Insert) (rendered : Rendered) (columns : List String)
    (tuples : List (List String)) : Prop :=
  ∃ update, insert.onDuplicateClause.WrittenIn rendered.params update ∧
    rendered.sql = insert.instruction ++ " " ++ insert.style.quoted insert.table
      ++ columnList insert.style columns ++ " \r\n" ++ "VALUES "
      ++ ",".intercalate (tuples.map Row.tupleText) ++ update ++ ";"

/-- Rows given as lists of assignments to one set of columns are written under the columns of the
first one, each row's operands in its own order. So the tuples of the rows that have their columns
in the order of the first one are aligned with it; in another row an expression is that of the
column above it wherever the row has that column at that position. -/
theorem exists_tuples_of_render {insert : Insert} (reachable : Builder.Reachable insert)
    {first : Assignments} {rest : List Assignments}
    (rows : insert.row = .many ((first :: rest).map .assigned)) (direct : insert.source = none)
    (distinct : ∀ row ∈ first :: rest, row.columns.Nodup)
    (same : ∀ row ∈ first :: rest, row.columns.Perm first.columns) :
    let rendered := (Builder.render insert).1
    ∃ tuples, insert.SpelledWith rendered first.columns tuples ∧
      List.Forall₂ (Row.TupleUnder insert.style rendered.params first.columns) (first :: rest)
        tuples := by
  intro rendered
  have listed : insert.row.columnNames = first.columns := by
    rw [rows]
    simp [Row.columnNames, Row.firstColumnNames]
  have shape : insert.body =
      .text "VALUES " ++ (Row.many ((first :: rest).map .assigned)).template insert.style := by
    simp [body, direct, rows]
  have written : insert.template.WrittenIn rendered.params rendered.sql := by
    have built : rendered = insert.template.build := reachable.render_eq_build
    rw [built]
    exact Template.writtenIn_build insert.template
  obtain ⟨_, _, spelled, front, terminator⟩ := written.exists_append
  obtain ⟨_, update, rfl, front, updateWritten⟩ := front.exists_append
  obtain ⟨_, _, rfl, lead, bodyWritten⟩ := front.exists_append
  rw [shape] at bodyWritten
  obtain ⟨_, _, rfl, keyword, rowsWritten⟩ := bodyWritten.exists_append
  obtain ⟨tuples, rfl, own⟩ := Row.exists_tuples rowsWritten
  refine ⟨tuples, ⟨update, updateWritten, ?_⟩, ?_⟩
  · rw [spelled, lead.eq_literal, keyword.eq_literal, terminator.eq_literal, listed]
    simp only [String.append_assoc]
  · refine List.forall₂_iff_get.mpr ⟨own.length_eq, fun index inside insideToo => ?_⟩
    have member := List.get_mem (first :: rest) ⟨index, inside⟩
    exact (own.get inside insideToo).tupleUnder (distinct _ member) (same _ member)

/-- Three rows, of which the second has its columns in another order. -/
theorem exists_tuples_of_swapped_render :
    let now : Fragment := { text := "NOW()" }
    let first := Assignments.ofList [("x", .value (.int 1)), ("at", .fragment now)]
    let second := Assignments.ofList [("at", .fragment now), ("x", .value (.int 2))]
    let third := Assignments.ofList [("x", .value (.int 3)), ("at", .fragment now)]
    let rows := [first, second, third]
    let insert := { Insert.draft "points" .standard with row := .many (rows.map .assigned) }
    let rendered := (Builder.render insert).1
    Builder.Reachable insert ∧
      (∀ row ∈ rows, row.columns.Nodup) ∧ (∀ row ∈ rows, row.columns.Perm first.columns) ∧
      third.columns = first.columns ∧
      rendered.sql =
        "INSERT INTO `points`(`x`,`at`) \r\nVALUES (:p0,NOW()),(NOW(),:p1),(:p2,NOW());" ∧
      ∃ tuples, insert.SpelledWith rendered first.columns tuples ∧
        List.Forall₂ (Row.TupleUnder insert.style rendered.params first.columns) rows tuples := by
  intro now first second third rows insert rendered
  have reachable : Builder.Reachable insert := .start rfl
  have distinct : ∀ row ∈ rows, row.columns.Nodup := by
    simp only [rows, List.forall_mem_cons]
    exact ⟨Assignments.nodup_columns_ofList _, Assignments.nodup_columns_ofList _,
      Assignments.nodup_columns_ofList _, nofun⟩
  have same : ∀ row ∈ rows, row.columns.Perm first.columns := by
    simp only [rows, List.forall_mem_cons]
    exact ⟨.refl _, .swap "x" "at" [], .refl _, nofun⟩
  exact ⟨reachable, distinct, same, rfl, by decide,
    exists_tuples_of_render reachable rfl rfl distinct same⟩

/-- A row that assigns the columns of the first one in another order: one of its values stands
under another column. -/
theorem not_standsUnder_of_swapped :
    let first : Assignments := [("x", .value (.int 1)), ("y", .value (.int 2))]
    let second : Assignments := [("y", .value (.int 3)), ("x", .value (.int 4))]
    let insert := { Insert.draft "t" .standard with row := .many ([first, second].map .assigned) }
    let rendered := (Builder.render insert).1
    Builder.Reachable insert ∧
      (∀ row ∈ [first, second], row.columns.Nodup ∧ row.columns.Perm first.columns) ∧
      ¬ ∃ tuples, insert.SpelledWith rendered first.columns tuples ∧
        List.Forall₂ (Row.StandsAligned insert.style rendered.params first.columns)
          [first, second] tuples := by
  intro first second insert rendered
  refine ⟨.start rfl, ?_, ?_⟩
  · intro row member
    rcases List.mem_pair.mp member with rfl | rfl <;> decide
  · rintro ⟨tuples, ⟨update, updateWritten, spelled⟩, aligned⟩
    have entries : rendered.params.entries =
      [(":p0", .int 1), (":p1", .int 2), (":p2", .int 3), (":p3", .int 4)] := by decide
    rcases aligned with _ | ⟨firstAligned, _ | ⟨secondAligned, _ | _⟩⟩
    rcases firstAligned with _ | ⟨one, _ | ⟨two, _ | _⟩⟩
    rcases secondAligned with _ | ⟨four, _ | ⟨three, _ | _⟩⟩
    obtain rfl : _ = ":p0" := by simpa [entries] using one.mem_entries rfl
    obtain rfl : _ = ":p1" := by simpa [entries] using two.mem_entries rfl
    obtain rfl : _ = ":p2" := by simpa [entries] using three.mem_entries rfl
    obtain rfl : _ = ":p3" := by simpa [entries] using four.mem_entries rfl
    obtain rfl : update = "" := updateWritten.eq_literal
    revert spelled
    decide

end Insert

end SqlWright
