import SqlWright.Proofs.Statement.CallerTexts
import SqlWright.Proofs.Template.Enclosure
/-! A statement whose caller-written texts are tidy is one statement: its parentheses pair up, its
terminator comes last and nowhere else, and a select that was merged into it stands between
parentheses of its own, other than the source of an insert. -/
namespace SqlWright

open Glyph (plain texts)

/-- Texts and fragments with paired parentheses and no semicolon. -/
def TextCheck.tidy : TextCheck where
  text := isTidy
  fragment source := isTidy source.text

section Texts

variable {style : Style}

theorem Style.tidy_quoted {token : String} (quoting : isHarmless style.quote = true)
    (tidy : isTidy token = true) : Tidy (style.quoted token) :=
  (tidy_of_isTidy tidy).quoteIdentifier quoting

theorem Style.tidy_quotedList {columns : List String} (quoting : isHarmless style.quote = true)
    (tidy : columns.all isTidy = true) : Tidy (",".intercalate (columns.map style.quoted)) := by
  refine .intercalate (.of_harmless rfl) ?_
  intro text member
  obtain ⟨column, inColumns, rfl⟩ := List.mem_map.mp member
  exact style.tidy_quoted quoting (List.all_eq_true.mp tidy column inColumns)

theorem tidy_paginate {limit : Limit} {page : Option UInt64} {body : String}
    (tidy : limit.passes .tidy = true) (written : paginate limit page style = some body) :
    Tidy body := by
  obtain rfl | ⟨n, rfl⟩ | ⟨size, offset, rfl | rfl⟩ := paginate_cases written
  · exact tidy_of_isTidy tidy
  · exact .toString n
  · exact ((Tidy.toString _).append (.of_harmless rfl)).append (.toString _)
  · exact ((Tidy.toString _).append (.of_harmless rfl)).append (.toString _)

end Texts

namespace Template

variable {body : Template} {terms : List Template} {style : Style}

theorem wellFormed_conditionClause {lead tail : String} (leadTidy : Tidy lead)
    (tailTidy : Tidy tail) (wellFormed : ∀ term ∈ terms, term.WellFormed) :
    (conditionClause lead terms tail).WellFormed := by
  unfold conditionClause
  split
  · exact wellFormed_empty
  · have condition : (joined " AND " terms).WellFormed :=
      wellFormed_joined (.of_harmless rfl) wellFormed
    exact (WellFormed.text_append leadTidy condition).append_text tailTidy

theorem wellFormed_comparison {column : String} (quoting : isHarmless style.quote = true)
    (tidy : isTidy column = true) (wellFormed : body.WellFormed) :
    (comparison style column body).WellFormed := by
  unfold comparison
  split
  · exact .text_append ((tidy_of_isTidy tidy).append (.of_harmless rfl)) wellFormed
  · exact .text_append ((style.tidy_quoted quoting tidy).append (.of_harmless rfl)) wellFormed

theorem wellFormed_selectComparison {column : String} (quoting : isHarmless style.quote = true)
    (tidy : isTidy column = true) (terminated : body.Terminated) :
    (selectComparison style column body).WellFormed := by
  unfold selectComparison
  refine .text_append ?_ terminated.merged.wellFormed_parenthesized
  split
  · exact (tidy_of_isTidy tidy).append (.of_harmless rfl)
  · exact (style.tidy_quoted quoting tidy).append (.of_harmless rfl)

theorem wellFormed_nullTest {column : String} (quoting : isHarmless style.quote = true)
    (tidy : isTidy column = true) : (nullTest style column).WellFormed := by
  refine wellFormed_text ?_
  split
  · exact tidy_of_isTidy tidy
  · exact (style.tidy_quoted quoting tidy).append (.of_harmless rfl)

/-- The select that makes up a membership test has the parentheses of the test to itself. -/
theorem wellFormed_members {select : Option Template} (others : Nat)
    (merged : ∀ body ∈ select, body.Merged) (wellFormed : ∀ term ∈ terms, term.WellFormed) :
    (parenthesized (members others select terms)).WellFormed := by
  unfold members
  split
  · next body =>
    have bodyMerged := merged body rfl
    split
    · exact bodyMerged.wellFormed_parenthesized
    · exact (bodyMerged.notice_append _).wellFormed_parenthesized
  · exact wellFormed_parenthesized (wellFormed_joined (.of_harmless rfl) wellFormed)

theorem wellFormed_projection (wellFormed : ∀ term ∈ terms, term.WellFormed) :
    (projection terms).WellFormed := by
  unfold projection
  split
  · exact wellFormed_text (.of_harmless rfl)
  · exact wellFormed_joined (.of_harmless rfl) wellFormed

theorem wellFormed_joinClause (kind : JoinKind) {target : String} (tidy : isTidy target = true)
    (wellFormed : ∀ term ∈ terms, term.WellFormed) : (joinClause kind target terms).WellFormed := by
  have keyword : Tidy kind.keyword := .of_harmless (by cases kind <;> rfl)
  have lead : Tidy ("\r\n" ++ kind.keyword ++ " " ++ target) :=
    (((Tidy.of_harmless rfl).append keyword).append (.of_harmless rfl)).append
      (tidy_of_isTidy tidy)
  have space : Tidy " " := .of_harmless rfl
  have on : (joined " AND " terms).WellFormed := wellFormed_joined (.of_harmless rfl) wellFormed
  refine (WellFormed.text_append lead ?_).append_text space
  split
  · exact on
  · exact (WellFormed.text_append (.of_harmless rfl) on).append_text space

/-- The outer parentheses of a union are around all its selects; every select has a pair inside
them. -/
theorem wellFormed_sourceTable {table : String} (unionAll : Bool) (tidy : isTidy table = true)
    (merged : ∀ term ∈ terms, term.Merged) : (sourceTable table unionAll terms).WellFormed := by
  unfold sourceTable
  split
  · exact wellFormed_text (tidy_of_isTidy tidy)
  · next nonempty =>
    have some : terms ≠ [] := by simpa using nonempty
    have named : Tidy (" AS " ++ table) := (Tidy.of_harmless rfl).append (tidy_of_isTidy tidy)
    have chained (middle : String) (harmless : middle.toList.all isHarmless = true) :
        (text "((" ++ joined (seam middle) terms ++ text (")) AS " ++ table)).WellFormed := by
      have paired := (wellFormed_parenthesized
        (wellFormed_chained (.of_harmless harmless) some merged)).append_text named
      refine paired.of_glyphs fun index => ?_
      simp [glyphs, glyphs_append, glyphs_parenthesized, plain, String.toList_append]
      rfl
    cases unionAll with
    | true => exact chained " UNION ALL " rfl
    | false => exact chained " UNION DISTINCT " rfl

theorem wellFormed_columnClause (keyword : String) {columns : List String}
    (quoting : isHarmless style.quote = true) (harmless : keyword.toList.all isHarmless = true)
    (tidy : columns.all isTidy = true) : (columnClause style keyword columns).WellFormed := by
  unfold columnClause
  split
  · exact wellFormed_empty
  · exact wellFormed_text (((((Tidy.of_harmless rfl).append (.of_harmless harmless)).append
      (.of_harmless rfl)).append (style.tidy_quotedList quoting tidy)).append (.of_harmless rfl))

theorem wellFormed_commaJoins {targets : List String} (tidy : targets.all isTidy = true) :
    (commaJoins targets).WellFormed := by
  unfold commaJoins
  split
  · exact wellFormed_empty
  · have list : Tidy (",".intercalate targets) :=
      .intercalate (.of_harmless rfl) fun target member =>
        tidy_of_isTidy (List.all_eq_true.mp tidy target member)
    exact wellFormed_text (((Tidy.of_harmless rfl).append list).append (.of_harmless rfl))

theorem wellFormed_intoClause {target : Option String} (tidy : target.all isTidy = true) :
    (intoClause target).WellFormed := by
  unfold intoClause
  split
  · split
    · exact wellFormed_empty
    · exact wellFormed_text (((Tidy.of_harmless rfl).append (tidy_of_isTidy tidy)).append
        (.of_harmless rfl))
  · exact wellFormed_empty

theorem wellFormed_limitClause (style : Style) {limit : Limit} (page : Option UInt64)
    (tidy : limit.passes .tidy = true) : (limitClause style limit page).WellFormed := by
  unfold limitClause
  split
  · next body written =>
    exact wellFormed_text (((Tidy.of_harmless rfl).append (tidy_paginate tidy written)).append
      (.of_harmless rfl))
  · exact wellFormed_empty

end Template

mutual

theorem Operand.wellFormed_template {style : Style} (quoting : isHarmless style.quote = true) :
    (operand : Operand) → operand.passes .tidy = true → (operand.template style).WellFormed
  | .value value, _ => Template.wellFormed_scalar value
  | .fragment _, tidy => Template.wellFormed_fragment (tidy_of_isTidy tidy)
  | .select select, tidy =>
    (Select.terminated_template quoting select tidy).merged.wellFormed_parenthesized

theorem Operand.wellFormed_templates {style : Style} (quoting : isHarmless style.quote = true) :
    (operands : List Operand) → Operand.allPass .tidy operands = true →
      ∀ term ∈ Operand.templates style operands, term.WellFormed
  | [], _ => List.forall_mem_nil _
  | operand :: rest, tidy => by
    obtain ⟨firstTidy, restTidy⟩ := Bool.and_eq_true_iff.mp tidy
    exact List.forall_mem_cons.mpr ⟨Operand.wellFormed_template quoting operand firstTidy,
      Operand.wellFormed_templates quoting rest restTidy⟩

theorem Operand.merged_firstSelect {style : Style} (quoting : isHarmless style.quote = true) :
    (operands : List Operand) → Operand.allPass .tidy operands = true →
      ∀ body ∈ Operand.firstSelect style operands, body.Merged
  | [], _ => by
    intro body chosen
    cases chosen
  | .value _ :: rest, tidy => Operand.merged_firstSelect quoting rest
    (Bool.and_eq_true_iff.mp tidy).2
  | .fragment _ :: rest, tidy => Operand.merged_firstSelect quoting rest
    (Bool.and_eq_true_iff.mp tidy).2
  | .select select :: rest, tidy => by
    intro body chosen
    have selectTidy := (Bool.and_eq_true_iff.mp tidy).1
    rw [← Option.some.inj chosen]
    exact (Select.terminated_template quoting select selectTidy).merged

theorem Predicate.wellFormed_template {style : Style} (quoting : isHarmless style.quote = true)
    (parameterized : Bool) : (predicate : Predicate) →
      predicate.passes .tidy parameterized = true →
        (predicate.template style parameterized).WellFormed
  | .raw _, tidy => Template.wellFormed_fragment (tidy_of_isTidy tidy)
  | .isNull _, tidy => Template.wellFormed_nullTest quoting tidy
  | .equal _ (.value .null), tidy =>
    Template.wellFormed_nullTest quoting (Bool.and_eq_true_iff.mp tidy).1
  | .equal _ (.value (.bool _)), tidy | .equal _ (.value (.int _)), tidy
  | .equal _ (.value (.float _)), tidy | .equal _ (.value (.text _)), tidy => by
    obtain ⟨columnTidy, literalTidy⟩ := Bool.and_eq_true_iff.mp tidy
    refine Template.wellFormed_comparison quoting columnTidy ?_
    cases parameterized with
    | true => exact Template.wellFormed_scalar _
    | false => exact Template.wellFormed_text (tidy_of_isTidy literalTidy)
  | .equal _ (.fragment _), tidy => by
    obtain ⟨columnTidy, fragmentTidy⟩ := Bool.and_eq_true_iff.mp tidy
    exact Template.wellFormed_comparison quoting columnTidy
      (Template.wellFormed_fragment (tidy_of_isTidy fragmentTidy))
  | .equal _ (.select select), tidy => by
    obtain ⟨columnTidy, selectTidy⟩ := Bool.and_eq_true_iff.mp tidy
    exact Template.wellFormed_selectComparison quoting columnTidy
      (Select.terminated_template quoting select selectTidy)
  | .subSelect _ select, tidy => by
    obtain ⟨columnTidy, selectTidy⟩ := Bool.and_eq_true_iff.mp tidy
    exact Template.wellFormed_selectComparison quoting columnTidy
      (Select.terminated_template quoting select selectTidy)
  | .among _ [], _ => Template.wellFormed_text (.of_harmless rfl)
  | .among column (first :: rest), tidy => by
    obtain ⟨columnTidy, operandsTidy⟩ := Bool.and_eq_true_iff.mp tidy
    have lead : Tidy (style.quoted column ++ " IN ") :=
      (style.tidy_quoted quoting columnTidy).append (.of_harmless rfl)
    exact .text_append lead (Template.wellFormed_members rest.length
      (Operand.merged_firstSelect quoting (first :: rest) operandsTidy)
      (Operand.wellFormed_templates quoting (first :: rest) operandsTidy))

theorem Predicate.wellFormed_templates {style : Style} (quoting : isHarmless style.quote = true)
    (parameterized : Bool) : (predicates : List Predicate) →
      Predicate.allPass .tidy parameterized predicates = true →
        ∀ term ∈ Predicate.templates style parameterized predicates, term.WellFormed
  | [], _ => List.forall_mem_nil _
  | predicate :: rest, tidy => by
    obtain ⟨firstTidy, restTidy⟩ := Bool.and_eq_true_iff.mp tidy
    exact List.forall_mem_cons.mpr
      ⟨Predicate.wellFormed_template quoting parameterized predicate firstTidy,
      Predicate.wellFormed_templates quoting parameterized rest restTidy⟩

theorem Field.wellFormed_template {style : Style} (quoting : isHarmless style.quote = true) :
    (field : Field) → field.passes .tidy = true → (field.template style).WellFormed
  | .expression _, tidy => Template.wellFormed_text (tidy_of_isTidy tidy)
  | .aliased _ _, tidy => by
    obtain ⟨columnTidy, nameTidy⟩ := Bool.and_eq_true_iff.mp tidy
    exact Template.wellFormed_text (((style.tidy_quoted quoting columnTidy).append
      (.of_harmless rfl)).append (style.tidy_quoted quoting nameTidy))
  | .subSelect name select, tidy => by
    obtain ⟨nameTidy, selectTidy⟩ := Bool.and_eq_true_iff.mp tidy
    have named : Tidy (" AS " ++ style.quoted name) :=
      (Tidy.of_harmless rfl).append (style.tidy_quoted quoting nameTidy)
    have terminated := Select.terminated_template quoting select selectTidy
    exact terminated.merged.wellFormed_parenthesized.append_text named

theorem Field.wellFormed_templates {style : Style} (quoting : isHarmless style.quote = true) :
    (fields : List Field) → Field.allPass .tidy fields = true →
      ∀ term ∈ Field.templates style fields, term.WellFormed
  | [], _ => List.forall_mem_nil _
  | field :: rest, tidy => by
    obtain ⟨firstTidy, restTidy⟩ := Bool.and_eq_true_iff.mp tidy
    exact List.forall_mem_cons.mpr ⟨Field.wellFormed_template quoting field firstTidy,
      Field.wellFormed_templates quoting rest restTidy⟩

theorem Join.wellFormed_template {style : Style} (quoting : isHarmless style.quote = true) :
    (join : Join) → join.passes .tidy = true → (join.template style).WellFormed
  | ⟨kind, _, on⟩, tidy => by
    obtain ⟨targetTidy, onTidy⟩ := Bool.and_eq_true_iff.mp tidy
    exact Template.wellFormed_joinClause kind targetTidy
      (Predicate.wellFormed_templates quoting false on onTidy)

theorem Join.wellFormed_templates {style : Style} (quoting : isHarmless style.quote = true) :
    (joins : List Join) → Join.allPass .tidy joins = true →
      ∀ term ∈ Join.templates style joins, term.WellFormed
  | [], _ => List.forall_mem_nil _
  | join :: rest, tidy => by
    obtain ⟨firstTidy, restTidy⟩ := Bool.and_eq_true_iff.mp tidy
    exact List.forall_mem_cons.mpr ⟨Join.wellFormed_template quoting join firstTidy,
      Join.wellFormed_templates quoting rest restTidy⟩

theorem Joins.wellFormed_template {style : Style} (quoting : isHarmless style.quote = true) :
    (joins : Joins) → joins.passes .tidy = true → (joins.template style).WellFormed
  | ⟨_, typed⟩, tidy => by
    obtain ⟨commaTidy, typedTidy⟩ := Bool.and_eq_true_iff.mp tidy
    exact (Template.wellFormed_commaJoins commaTidy).append
      (Template.wellFormed_joined .empty (Join.wellFormed_templates quoting typed typedTidy))

theorem Select.terminated_template {style : Style} (quoting : isHarmless style.quote = true) :
    (select : Select) → select.passes .tidy = true → (select.template style).Terminated
  | ⟨_, _, fields, _, joins, filter, _, having, _, _, page, unions, unionAll, _⟩, tidy => by
    simp only [Select.passes, Bool.and_eq_true] at tidy
    obtain ⟨⟨⟨⟨⟨⟨⟨⟨⟨tableTidy, fieldsTidy⟩, intoTidy⟩, joinsTidy⟩, filterTidy⟩, groupTidy⟩,
      havingTidy⟩, orderTidy⟩, limitTidy⟩, unionsTidy⟩ := tidy
    have selectTidy : Tidy "SELECT " := .of_harmless rfl
    have fromTidy : Tidy " FROM " := .of_harmless rfl
    have whereTidy : Tidy "\r\nWHERE " := .of_harmless rfl
    have havingLead : Tidy "\r\nHAVING " := .of_harmless rfl
    have space : Tidy " " := .of_harmless rfl
    have columns := Template.wellFormed_projection
      (Field.wellFormed_templates quoting fields fieldsTidy)
    have source := Template.wellFormed_sourceTable unionAll tableTidy
      (Select.merged_templates quoting unions unionsTidy)
    have filterClause := Template.wellFormed_conditionClause whereTidy .empty
      (Predicate.wellFormed_templates quoting true filter filterTidy)
    have groupClause := Template.wellFormed_columnClause "GROUP BY" quoting rfl groupTidy
    have havingClause := Template.wellFormed_conditionClause havingLead space
      (Predicate.wellFormed_templates quoting true having havingTidy)
    have orderClause := Template.wellFormed_columnClause "ORDER BY" quoting rfl orderTidy
    have upToFrom := ((Template.WellFormed.text_append selectTidy columns).append
      (Template.wellFormed_intoClause intoTidy)).append_text fromTidy
    have upToFilter := ((upToFrom.append source).append
      (Joins.wellFormed_template quoting joins joinsTidy)).append filterClause
    have upToLimit := (((upToFilter.append groupClause).append havingClause).append
      orderClause).append (Template.wellFormed_limitClause style page limitTidy)
    exact ⟨_, upToLimit, by rw [Select.template]⟩

theorem Select.merged_templates {style : Style} (quoting : isHarmless style.quote = true) :
    (selects : List Select) → Select.allPass .tidy selects = true →
      ∀ term ∈ Select.templates style selects, term.Merged
  | [], _ => List.forall_mem_nil _
  | select :: rest, tidy => by
    obtain ⟨firstTidy, restTidy⟩ := Bool.and_eq_true_iff.mp tidy
    exact List.forall_mem_cons.mpr ⟨(Select.terminated_template quoting select firstTidy).merged,
      Select.merged_templates quoting rest restTidy⟩

end

theorem Assignments.wellFormed_template {style : Style} {assignments : Assignments}
    (quoting : isHarmless style.quote = true) (tidy : assignments.passes .tidy = true) :
    (Assignments.template style assignments).WellFormed := by
  refine Template.wellFormed_joined (.of_harmless rfl) ?_
  intro term member
  obtain ⟨assignment, inList, rfl⟩ := List.mem_map.mp member
  obtain ⟨columnTidy, operandTidy⟩ :=
    Bool.and_eq_true_iff.mp (List.all_eq_true.mp tidy assignment inList)
  have lead : Tidy (style.quoted assignment.1 ++ "=") :=
    (style.tidy_quoted quoting columnTidy).append (.of_harmless rfl)
  exact .text_append lead (Operand.wellFormed_template quoting assignment.2 operandTidy)

theorem Row.wellFormed_tuple {expressions : List Template}
    (wellFormed : ∀ expression ∈ expressions, expression.WellFormed) :
    (Row.tuple expressions).WellFormed := by
  unfold Row.tuple
  split
  · exact Template.wellFormed_empty
  · exact Template.wellFormed_parenthesized
      (Template.wellFormed_joined (.of_harmless rfl) wellFormed)

mutual

theorem Row.wellFormed_template {style : Style} (quoting : isHarmless style.quote = true) :
    (row : Row) → row.valuesPass .tidy = true → (row.template style).WellFormed
  | .assigned assignments, tidy => by
    refine Row.wellFormed_tuple ?_
    intro term member
    obtain ⟨operand, inRow, rfl⟩ := List.mem_map.mp member
    obtain ⟨assignment, inList, rfl⟩ := List.mem_map.mp inRow
    exact Operand.wellFormed_template quoting assignment.2
      (List.all_eq_true.mp tidy assignment inList)
  | .columns names, _ => by
    refine Row.wellFormed_tuple ?_
    intro term member
    obtain ⟨name, _, rfl⟩ := List.mem_map.mp member
    exact Template.wellFormed_scalar (.text name)
  | .many rows, tidy => Template.wellFormed_joined (.of_harmless rfl)
    (Row.wellFormed_templates quoting rows tidy)

theorem Row.wellFormed_templates {style : Style} (quoting : isHarmless style.quote = true) :
    (rows : List Row) → Row.allValuesPass .tidy rows = true →
      ∀ term ∈ Row.templates style rows, term.WellFormed
  | [], _ => List.forall_mem_nil _
  | row :: rest, tidy => by
    obtain ⟨firstTidy, restTidy⟩ := Bool.and_eq_true_iff.mp tidy
    exact List.forall_mem_cons.mpr ⟨Row.wellFormed_template quoting row firstTidy,
      Row.wellFormed_templates quoting rest restTidy⟩

end

namespace Insert

variable {insert : Insert}

theorem tidy_columnList {style : Style} {columns : List String}
    (quoting : isHarmless style.quote = true) (tidy : columns.all isTidy = true) :
    Tidy (columnList style columns) := by
  unfold columnList
  split
  · exact .empty
  · exact ((Style.tidy_quotedList quoting tidy).add 1).parenthesize

theorem wellFormed_onDuplicateClause (quoting : isHarmless insert.style.quote = true)
    (tidy : Assignments.passes .tidy insert.onDuplicate = true) :
    insert.onDuplicateClause.WellFormed := by
  unfold onDuplicateClause
  split
  · exact Template.wellFormed_empty
  · exact .text_append (.of_harmless rfl) (Assignments.wellFormed_template quoting tidy)

/-- What stands before the rows of an insert. -/
theorem tidy_lead (quoting : isHarmless insert.style.quote = true)
    (tableTidy : isTidy insert.table = true)
    (columnsTidy : insert.row.columnNames.all isTidy = true) :
    Tidy (insert.instruction ++ " " ++ insert.style.quoted insert.table ++
      columnList insert.style insert.row.columnNames ++ " \r\n") := by
  have instruction : Tidy insert.instruction := by
    unfold Insert.instruction
    split
    · exact .of_harmless rfl
    · split
      · exact .of_harmless rfl
      · exact .of_harmless rfl
  exact (((instruction.append (.of_harmless rfl)).append
    (Style.tidy_quoted quoting tableTidy)).append (tidy_columnList quoting columnsTidy)).append
      (.of_harmless rfl)

/-- An insert of rows, or one around the select that its rows come from. -/
theorem template_cases (quoting : isHarmless insert.style.quote = true)
    (tidy : insert.passes .tidy = true) :
    (insert.source = none ∧ insert.template.Terminated) ∨
      ∃ select lead tail, insert.source = some select ∧
        (select.template insert.style).Terminated ∧ lead.WellFormed ∧ tail.WellFormed ∧
        insert.template =
          lead ++ .nested (select.template insert.style) ++ tail ++ .text ";" := by
  simp only [Insert.passes, Bool.and_eq_true] at tidy
  obtain ⟨⟨⟨⟨tableTidy, columnsTidy⟩, valuesTidy⟩, sourceTidy⟩, onDuplicateTidy⟩ := tidy
  have lead := Template.wellFormed_text (tidy_lead quoting tableTidy columnsTidy)
  have onDuplicate := wellFormed_onDuplicateClause quoting onDuplicateTidy
  cases source : insert.source with
  | none =>
    have rows : (Template.text "VALUES " ++ insert.row.template insert.style).WellFormed :=
      .text_append (.of_harmless rfl) (Row.wellFormed_template quoting insert.row valuesTidy)
    refine .inl ⟨rfl, _, (lead.append rows).append onDuplicate, ?_⟩
    simp [Insert.template, body, source]
  | some select =>
    rw [source] at sourceTidy
    have terminated := Select.terminated_template quoting select sourceTidy
    refine .inr ⟨select, _, _, rfl, terminated, lead, onDuplicate, ?_⟩
    simp [Insert.template, body, source]

end Insert

theorem Update.terminated_template {update : Update}
    (quoting : isHarmless update.style.quote = true) (tidy : update.passes .tidy = true) :
    update.template.Terminated := by
  simp only [Update.passes, Bool.and_eq_true] at tidy
  obtain ⟨⟨⟨tableTidy, joinsTidy⟩, assignmentsTidy⟩, filterTidy⟩ := tidy
  have lead : Tidy ("UPDATE " ++ update.style.quoted update.table) :=
    (Tidy.of_harmless rfl).append (Style.tidy_quoted quoting tableTidy)
  have joins := Joins.wellFormed_template quoting update.joins joinsTidy
  have setTidy : Tidy " \r\nSET " := .of_harmless rfl
  have whereTidy : Tidy " \r\nWHERE " := .of_harmless rfl
  have filter := Template.wellFormed_conditionClause whereTidy .empty
    (Predicate.wellFormed_templates quoting true update.filter filterTidy)
  have upToSet := (Template.WellFormed.text_append lead joins).append_text setTidy
  exact ⟨_, (upToSet.append (Assignments.wellFormed_template quoting assignmentsTidy)).append
    filter, rfl⟩

theorem Delete.terminated_template {delete : Delete}
    (quoting : isHarmless delete.style.quote = true) (tidy : delete.passes .tidy = true) :
    delete.template.Terminated := by
  obtain ⟨tableTidy, filterTidy⟩ := Bool.and_eq_true_iff.mp tidy
  have lead : Tidy ("DELETE FROM " ++ delete.style.quoted delete.table) :=
    (Tidy.of_harmless rfl).append (Style.tidy_quoted quoting tableTidy)
  have whereTidy : Tidy " \r\nWHERE " := .of_harmless rfl
  have filter := Template.wellFormed_conditionClause whereTidy .empty
    (Predicate.wellFormed_templates quoting true delete.filter filterTidy)
  exact ⟨_, .text_append lead filter, rfl⟩

namespace Statement

/-- The select that an insert takes its rows from. -/
def source : Statement → Option Select
  | .insert stmt => stmt.source
  | .select _ | .update _ | .delete _ => none

variable {stmt : Statement}

/-- Only an insert can write a select that has no parentheses around it. -/
theorem template_cases (quoting : isHarmless stmt.style.quote = true)
    (tidy : stmt.writtenPass .tidy = true) :
    (stmt.source = none ∧ stmt.template.Terminated) ∨
      ∃ origin lead tail, stmt.source = some origin ∧
        (origin.template stmt.style).Terminated ∧ lead.WellFormed ∧ tail.WellFormed ∧
        stmt.template = lead ++ .nested (origin.template stmt.style) ++ tail ++ .text ";" := by
  cases stmt with
  | select stmt => exact .inl ⟨rfl, Select.terminated_template quoting stmt tidy⟩
  | insert stmt => exact Insert.template_cases quoting tidy
  | update stmt => exact .inl ⟨rfl, Update.terminated_template quoting tidy⟩
  | delete stmt => exact .inl ⟨rfl, Delete.terminated_template quoting tidy⟩

/-- A rendered statement pairs its parentheses, none of which is closed before it was opened, and
has one semicolon, at its end. Every select merged into it, at any depth, has a pair of parentheses
around it that is its own, except for the source of an insert. -/
theorem render_enclosed (reachable : stmt.Reachable)
    (quoting : isHarmless stmt.style.quote = true) (tidy : stmt.writtenPass .tidy = true) :
    let sql := stmt.render.1.sql
    let glyphs := stmt.template.glyphs 0
    isBalanced sql = true ∧ (∃ body, sql = body ++ ";" ∧ ';' ∉ body.toList) ∧
      texts glyphs = sql ∧
      match stmt.source with
      | none => Enclosed glyphs
      | some origin => ∃ lead index tail,
        glyphs = lead ++ .merged ((origin.template stmt.style).glyphs index) :: tail ∧
          Enclosed lead ∧ Enclosed ((origin.template stmt.style).glyphs index) ∧ Enclosed tail := by
  intro sql glyphs
  have built : stmt.render.1.sql = stmt.template.build.sql := by rw [reachable.render_eq_build]
  have spelled : texts glyphs = sql := by
    rw [show sql = _ from built, Template.sql_build]
    exact Template.texts_glyphs _ 0
  rcases template_cases quoting tidy with ⟨isNone, terminated⟩ |
    ⟨origin, lead, tail, isSome, terminated, leadFormed, tailFormed, isTemplate⟩
  · rw [isNone]
    obtain ⟨body, wellFormed, isTemplate⟩ := id terminated
    obtain ⟨balanced, ended⟩ := Template.sql_build_terminated wellFormed.tidy
    rw [← isTemplate, ← built] at balanced ended
    exact ⟨balanced, ended, spelled, terminated.enclosed 0⟩
  · rw [isSome]
    have bodyTidy := Template.tidy_append
      (Template.tidy_append leadFormed.tidy terminated.merged.tidy) tailFormed.tidy
    obtain ⟨balanced, ended⟩ := Template.sql_build_terminated bodyTidy
    rw [← isTemplate, ← built] at balanced ended
    let merged := Template.nested (origin.template stmt.style)
    have parted : glyphs = lead.glyphs 0 ++
        .merged ((origin.template stmt.style).glyphs (0 + lead.scalars.length)) ::
          (tail.glyphs (0 + (lead ++ merged).scalars.length) ++ plain ";") := by
      simp only [glyphs, isTemplate, Template.glyphs_append, List.append_assoc]
      rfl
    exact ⟨balanced, ended, spelled, _, _, _, parted, leadFormed.enclosed 0,
      terminated.enclosed _, (tailFormed.enclosed _).append (.plain ";")⟩

/-- Selects in a union, in a projection and in a membership test, and an insert whose source and
assigned values are selects; a bound text may hold what ends a statement. -/
theorem render_enclosed_of_union :
    let part : Select := { Select.draft "staff" .standard with
      filter := [.equal "name" (.value (.text ");--"))] }
    let select : Statement := .select { Select.draft "team" .postgres with
      fields := [.subSelect "lead" part], unions := [part, part, part],
      filter := [.among "COUNT(id)" [.value (.int 1), .select part]] }
    let insert : Statement := .insert { Insert.draft "log" .standard with
      row := .columns ["id"], source := some part, onDuplicate := [("lead", .select part)] }
    select.Reachable ∧ insert.Reachable ∧ select.writtenPass .tidy = true ∧
      insert.writtenPass .tidy = true ∧ isBalanced select.render.1.sql = true ∧
      Enclosed (select.template.glyphs 0) ∧
      ∃ body, insert.render.1.sql = body ++ ";" ∧ ';' ∉ body.toList := by
  intro part select insert
  have selectReachable : select.Reachable := Builder.Reachable.start rfl
  have insertReachable : insert.Reachable := Builder.Reachable.start rfl
  have selectTidy : select.writtenPass .tidy = true := by decide
  have insertTidy : insert.writtenPass .tidy = true := by decide
  obtain ⟨balanced, -, -, enclosed⟩ := render_enclosed selectReachable rfl selectTidy
  obtain ⟨-, ended, -⟩ := render_enclosed insertReachable rfl insertTidy
  exact ⟨selectReachable, insertReachable, selectTidy, insertTidy, balanced, enclosed, ended⟩

end Statement

end SqlWright
