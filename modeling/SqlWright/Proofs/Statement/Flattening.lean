import SqlWright.Proofs.Statement.Tuples
import SqlWright.Proofs.Template.Texts
/-! Rows that are given nested. However deep a tree of rows is, an insert writes it as the flat list
of its leaves, in the order in which they stand in the tree. -/
namespace SqlWright

namespace Row

/-- A row that holds no other rows. -/
inductive Leaf where
  | assigned (assignments : Assignments)
  | columns (names : List String)

namespace Leaf

def row : Leaf → Row
  | .assigned assignments => .assigned assignments
  | .columns names => .columns names

/-- What is written for each entry. -/
def expressions (style : Style) : Leaf → List Template
  | .assigned assignments => assignments.operands.map (Operand.template style)
  | .columns names => names.map fun name => .scalar (.text name)

theorem template_row (style : Style) (leaf : Leaf) :
    leaf.row.template style = tuple (leaf.expressions style) := by
  cases leaf <;> rfl

theorem length_expressions (style : Style) (leaf : Leaf) :
    (leaf.expressions style).length = leaf.row.columnNames.length := by
  cases leaf <;> simp [expressions, row, columnNames, Assignments.operands, Assignments.columns]

/-- The texts are the renderings of a leaf's entries, of which there are some. -/
structure WritesOwn (style : Style) (params : Table) (leaf : Leaf) (texts : List String) :
    Prop where
  each : List.Forall₂ (Template.WrittenIn params) (leaf.expressions style) texts
  length : texts.length = leaf.row.columnNames.length
  nonempty : texts ≠ []

theorem exists_writesOwn {style : Style} {params : Table} {leaf : Leaf} {text : String}
    (written : (leaf.row.template style).WrittenIn params text)
    (filled : leaf.row.columnNames ≠ []) :
    ∃ texts, text = tupleText texts ∧ leaf.WritesOwn style params texts := by
  rw [template_row] at written
  obtain ⟨texts, spelled, each⟩ := exists_tuple written
  have length := each.length_eq.symm.trans (length_expressions style leaf)
  refine ⟨texts, spelled, each, length, ?_⟩
  rintro rfl
  exact filled (List.length_eq_zero_iff.mp length.symm)

end Leaf

mutual

/-- The leaves of a tree of rows, from the first to the last. -/
def leaves : Row → List Leaf
  | .assigned assignments => [.assigned assignments]
  | .columns names => [.columns names]
  | .many rows => allLeaves rows

def allLeaves : List Row → List Leaf
  | [] => []
  | row :: rest => row.leaves ++ allLeaves rest

end

/-- The leaves as a list of rows. -/
def flat (row : Row) : Row := .many (row.leaves.map Leaf.row)

mutual

/-- Neither a list of rows nor a leaf is empty. -/
def isFilled : Row → Bool
  | .assigned assignments => !assignments.isEmpty
  | .columns names => !names.isEmpty
  | .many rows => !rows.isEmpty && allFilled rows

def allFilled : List Row → Bool
  | [] => true
  | row :: rest => row.isFilled && allFilled rest

end

mutual

theorem leaves_ne_nil : (row : Row) → row.isFilled = true → row.leaves ≠ []
  | .assigned _, _ => List.cons_ne_nil _ _
  | .columns _, _ => List.cons_ne_nil _ _
  | .many rows, filled => by
    obtain ⟨nonempty, filledRows⟩ := Bool.and_eq_true_iff.mp filled
    exact allLeaves_ne_nil rows (by simpa using nonempty) filledRows

theorem allLeaves_ne_nil : (rows : List Row) → rows ≠ [] → allFilled rows = true →
    allLeaves rows ≠ []
  | [], nonempty, _ => absurd rfl nonempty
  | row :: _, _, filled =>
    have first := leaves_ne_nil row (Bool.and_eq_true_iff.mp filled).1
    mt (fun none => (List.append_eq_nil_iff.mp none).1) first

end

mutual

theorem columnNames_ne_nil : (row : Row) → row.isFilled = true →
    ∀ leaf ∈ row.leaves, leaf.row.columnNames ≠ []
  | .assigned assignments, filled => by
    simpa [leaves, Leaf.row, columnNames, Assignments.columns, isFilled] using filled
  | .columns names, filled => by
    simpa [leaves, Leaf.row, columnNames, isFilled] using filled
  | .many rows, filled => allColumnNames_ne_nil rows (Bool.and_eq_true_iff.mp filled).2

theorem allColumnNames_ne_nil : (rows : List Row) → allFilled rows = true →
    ∀ leaf ∈ allLeaves rows, leaf.row.columnNames ≠ []
  | [], _ => nofun
  | row :: rest, filled => by
    obtain ⟨filledRow, filledRest⟩ := Bool.and_eq_true_iff.mp filled
    exact List.forall_mem_append.mpr
      ⟨columnNames_ne_nil row filledRow, allColumnNames_ne_nil rest filledRest⟩

end

mutual

/-- The column list is that of the first leaf. -/
theorem columnNames_flat : (row : Row) → row.isFilled = true →
    row.flat.columnNames = row.columnNames
  | .assigned _, _ => rfl
  | .columns _, _ => rfl
  | .many rows, filled => firstColumnNames_flat rows (Bool.and_eq_true_iff.mp filled).2

theorem firstColumnNames_flat : (rows : List Row) → allFilled rows = true →
    firstColumnNames ((allLeaves rows).map Leaf.row) = firstColumnNames rows
  | [], _ => rfl
  | row :: rest, filled => by
    have filledRow := (Bool.and_eq_true_iff.mp filled).1
    obtain ⟨first, others, spelled⟩ := List.exists_cons_of_ne_nil (leaves_ne_nil row filledRow)
    have same := columnNames_flat row filledRow
    rw [firstColumnNames, ← same, allLeaves, flat, spelled]
    rfl

end

mutual

/-- A tree of rows is written like the list of its leaves. -/
theorem emit_flat (style : Style) : (row : Row) → row.isFilled = true →
    (row.flat.template style).emit = (row.template style).emit
  | .assigned _, _ => rfl
  | .columns _, _ => rfl
  | .many rows, filled => emit_allLeaves style rows (Bool.and_eq_true_iff.mp filled).2

theorem emit_allLeaves (style : Style) : (rows : List Row) → allFilled rows = true →
    ((many ((allLeaves rows).map Leaf.row)).template style).emit =
      ((many rows).template style).emit
  | [], _ => rfl
  | row :: rest, filled => by
    obtain ⟨filledRow, filledRest⟩ := Bool.and_eq_true_iff.mp filled
    have same := emit_flat style row filledRow
    have sameRest := emit_allLeaves style rest filledRest
    simp only [flat, template, templates_eq_map] at same sameRest ⊢
    by_cases alone : rest = []
    · subst alone
      simpa [allLeaves, Template.joined] using same
    · have front : (row.leaves.map Leaf.row).map (template style) ≠ [] := by
        simpa using leaves_ne_nil row filledRow
      have back : ((allLeaves rest).map Leaf.row).map (template style) ≠ [] := by
        simpa using allLeaves_ne_nil rest alone filledRest
      rw [List.map_cons, Template.joined_cons_of_ne_nil "," _ (by simpa using alone), allLeaves,
        List.map_append, List.map_append, Template.emit_joined_append "," front back]
      exact Template.emit_append_congr (Template.emit_append_congr same rfl) sameRest

end

mutual

/-- The scalars of a tree are those of its leaves, one leaf after the other. -/
theorem scalars_eq_flatMap : (row : Row) →
    row.scalars = row.leaves.flatMap fun leaf => leaf.row.scalars
  | .assigned _ => by simp [leaves, Leaf.row]
  | .columns _ => by simp [leaves, Leaf.row]
  | .many rows => allScalars_eq_flatMap rows

theorem allScalars_eq_flatMap : (rows : List Row) →
    allScalars rows = (allLeaves rows).flatMap fun leaf => leaf.row.scalars
  | [] => rfl
  | row :: rest => by
    rw [allScalars, allLeaves, List.flatMap_append, scalars_eq_flatMap row,
      allScalars_eq_flatMap rest]

end

/-- A tree of rows stands as one tuple for each leaf, with commas between them. -/
theorem exists_leafTuples {style : Style} {params : Table} {text : String} {row : Row}
    (filled : row.isFilled = true) (written : (row.flat.template style).WrittenIn params text) :
    ∃ tuples : List (List String), text = ",".intercalate (tuples.map tupleText) ∧
      List.Forall₂ (Leaf.WritesOwn style params) row.leaves tuples := by
  simp only [flat, template, templates_eq_map] at written
  obtain ⟨texts, rfl, each⟩ := written.exists_joined
  rw [List.map_map, List.forall₂_map_left_iff] at each
  obtain ⟨tuples, rfl, own⟩ := exists_tuplesOf each fun leaf member _ leafWritten =>
    Leaf.exists_writesOwn leafWritten (columnNames_ne_nil row filled leaf member)
  exact ⟨tuples, rfl, own⟩

end Row

namespace Insert

/-- The text of an insert of rows: its column list, its rows, and its clause for rows that are
already there. -/
theorem exists_rows_of_build {insert : Insert} (direct : insert.source = none) :
    let rendered := Builder.build insert
    ∃ rows update, (insert.row.template insert.style).WrittenIn rendered.params rows ∧
      insert.onDuplicateClause.WrittenIn rendered.params update ∧
      rendered.sql = insert.instruction ++ " " ++ insert.style.quoted insert.table
        ++ columnList insert.style insert.row.columnNames ++ " \r\n" ++ "VALUES " ++ rows
        ++ update ++ ";" := by
  intro rendered
  have shape : insert.body = .text "VALUES " ++ insert.row.template insert.style := by
    simp [body, direct]
  have written : insert.template.WrittenIn rendered.params rendered.sql :=
    Template.writtenIn_build insert.template
  obtain ⟨_, _, spelled, front, terminator⟩ := written.exists_append
  obtain ⟨_, update, rfl, front, updateWritten⟩ := front.exists_append
  obtain ⟨_, _, rfl, lead, bodyWritten⟩ := front.exists_append
  rw [shape] at bodyWritten
  obtain ⟨_, rows, rfl, keyword, rowsWritten⟩ := bodyWritten.exists_append
  refine ⟨rows, update, rowsWritten, updateWritten, ?_⟩
  rw [spelled, lead.eq_literal, keyword.eq_literal, terminator.eq_literal]
  simp only [String.append_assoc]

/-- Rows in a tree and their leaves in a list are the same insert. -/
theorem build_flat {insert : Insert} (direct : insert.source = none)
    (filled : insert.row.isFilled = true) :
    Builder.build { insert with row := insert.row.flat, rendered := none } =
      Builder.build insert := by
  have sameRows := Row.emit_flat insert.style insert.row filled
  have sameBody : ({ insert with row := insert.row.flat, rendered := none } : Insert).body.emit =
      insert.body.emit := by
    simp only [body, direct]
    exact Template.emit_append_congr rfl sameRows
  have same : ({ insert with row := insert.row.flat, rendered := none } : Insert).template.emit =
      insert.template.emit := by
    unfold template
    rw [Row.columnNames_flat insert.row filled]
    refine Template.emit_append_congr (Template.emit_append_congr ?_ rfl) rfl
    exact Template.emit_append_congr rfl sameBody
  simp only [Builder.build, Builder.template, Template.build, same]

/-- The scalars of the leaves are numbered from zero, leaf after leaf, and those of the clause for
rows that are already there come after them. -/
theorem generatedEntries_build_of_direct {insert : Insert} (direct : insert.source = none) :
    (Builder.build insert).params.generatedEntries = Placeholder.numbered 0
      (insert.row.leaves.flatMap (fun leaf => leaf.row.scalars) ++
        insert.onDuplicate.scalars) := by
  have scalars : insert.scalars = insert.row.scalars ++ insert.onDuplicate.scalars := by
    simp [Insert.scalars, direct]
  rw [Builder.build, Template.generatedEntries_build]
  have order : (Builder.template insert).scalars = insert.scalars := insert.scalars_template
  rw [order, scalars, Row.scalars_eq_flatMap]

/-- An insert of a tree of rows is that of its leaves in a list. It has the columns of the first
leaf, one tuple for each leaf with an expression for each of its entries, and binds the scalars of
one leaf after the other. -/
theorem render_eq_of_flat {insert : Insert} (reachable : Builder.Reachable insert)
    (direct : insert.source = none) (filled : insert.row.isFilled = true) :
    let rendered := (Builder.render insert).1
    let flat := { insert with row := insert.row.flat, rendered := none }
    (Builder.render flat).1 = rendered ∧
      ∃ first rest tuples, insert.row.leaves = first :: rest ∧
        insert.SpelledWith rendered first.row.columnNames tuples ∧
        List.Forall₂ (Row.Leaf.WritesOwn insert.style rendered.params) (first :: rest) tuples ∧
        rendered.params.generatedEntries = Placeholder.numbered 0
          ((first :: rest).flatMap (fun leaf => leaf.row.scalars) ++
            insert.onDuplicate.scalars) := by
  intro rendered flat
  have built : rendered = Builder.build insert := reachable.render_eq_build
  have same : Builder.build flat = Builder.build insert := build_flat direct filled
  obtain ⟨first, rest, leaves⟩ := List.exists_cons_of_ne_nil (insert.row.leaves_ne_nil filled)
  have listed : flat.row.columnNames = first.row.columnNames := by
    simp [flat, Row.flat, leaves, Row.columnNames, Row.firstColumnNames]
  have directToo : flat.source = none := direct
  obtain ⟨rows, update, rowsWritten, updateWritten, spelled⟩ := exists_rows_of_build directToo
  rw [same] at rowsWritten updateWritten spelled
  obtain ⟨tuples, rfl, own⟩ := Row.exists_leafTuples filled rowsWritten
  refine ⟨same.trans built.symm, first, rest, tuples, leaves, ⟨update, ?_, ?_⟩, ?_, ?_⟩
  · rw [built]
    exact updateWritten
  · rw [built, spelled, listed]
    rfl
  · rw [built, ← leaves]
    exact own
  · rw [built, ← leaves]
    exact generatedEntries_build_of_direct direct

/-- Rows in a list within a list, before a row that stands by itself. -/
theorem render_eq_of_flat_when_nested :
    let inner : Row := .many [.assigned [("x", .value (.int 1)), ("y", .value (.int 2))],
      .columns ["x", "z"]]
    let insert := { Insert.draft "points" .standard with
      row := .many [.many [inner], .assigned [("x", .value (.int 3))]] }
    let rendered := (Builder.render insert).1
    let flat := { insert with row := insert.row.flat, rendered := none }
    Builder.Reachable insert ∧ insert.source = none ∧ insert.row.isFilled = true ∧
      rendered.sql =
        "INSERT INTO `points`(`x`,`y`) \r\nVALUES (:p0,:p1),(:p2,:p3),(:p4);" ∧
      (Builder.render flat).1 = rendered ∧
      ∃ first rest tuples, insert.row.leaves = first :: rest ∧
        insert.SpelledWith rendered first.row.columnNames tuples ∧
        List.Forall₂ (Row.Leaf.WritesOwn insert.style rendered.params) (first :: rest) tuples ∧
        rendered.params.generatedEntries = Placeholder.numbered 0
          ((first :: rest).flatMap (fun leaf => leaf.row.scalars) ++
            insert.onDuplicate.scalars) := by
  intro inner insert rendered flat
  have reachable : Builder.Reachable insert := .start rfl
  exact ⟨reachable, rfl, by decide, by decide, render_eq_of_flat reachable rfl (by decide)⟩

end Insert

end SqlWright
