import SqlWright.Proofs.Statement.CallerTexts
import SqlWright.Proofs.Template.Readable
/-! A statement whose caller-written texts are plain has a readable template: quoted names
are closed, and no clause extends a placeholder that stands before it. -/
namespace SqlWright

open Postgres (Verbatim isQuote isNamePart isPlainText verbatim_of_isPlainText)

/-- Texts without quote characters and colons, and fragments whose colons start placeholders
of their own. -/
def TextCheck.plain : TextCheck where
  text := isPlainText
  fragment := Fragment.isPlain

theorem Style.verbatim_quoted {style : Style} {token : String}
    (quoting : isQuote style.quote = true) (plain : isPlainText token = true) :
    Verbatim (style.quoted token) :=
  Postgres.verbatim_quoteIdentifier quoting plain

theorem Style.verbatim_quotedList {style : Style} {columns : List String}
    (quoting : isQuote style.quote = true) (plain : columns.all isPlainText = true) :
    Verbatim (",".intercalate (columns.map style.quoted)) := by
  refine .intercalate (verbatim_of_isPlainText rfl) ?_
  intro text member
  obtain ⟨column, inColumns, rfl⟩ := List.mem_map.mp member
  exact style.verbatim_quoted quoting (List.all_eq_true.mp plain column inColumns)

theorem verbatim_toString (n : Nat) : Verbatim (toString n) := by
  apply verbatim_of_isPlainText
  apply Postgres.isPlainText_iff.mpr
  intro c member
  have different : ∀ other : Char, other.isDigit = false → c ≠ other :=
    fun _ noDigit => Placeholder.ne_of_mem_toString member noDigit
  exact ⟨by simp [isQuote, different], different ':' rfl⟩

/-- Counts and pages are written in digits, and text as it was checked. -/
theorem verbatim_paginate {style : Style} {limit : Limit} {page : Option UInt64} {body : String}
    (plain : limit.passes .plain = true) (written : paginate limit page style = some body) :
    Verbatim body := by
  obtain rfl | ⟨n, rfl⟩ | ⟨size, offset, rfl | rfl⟩ := paginate_cases written
  · exact verbatim_of_isPlainText plain
  · exact verbatim_toString n
  · exact ((verbatim_toString _).append (verbatim_of_isPlainText rfl)).append (verbatim_toString _)
  · exact ((verbatim_toString _).append (verbatim_of_isPlainText rfl)).append (verbatim_toString _)

namespace Template

variable {body : Template} {terms : List Template} {style : Style}

theorem readable_joined {separator : String} {c : Char} (verbatim : Verbatim separator)
    (starts : separator.toList.head? = some c) (stop : isNamePart c = false)
    (readable : ∀ term ∈ terms, term.Readable) : (joined separator terms).Readable := by
  induction terms with
  | nil => exact readable_empty
  | cons first rest ih =>
    have firstReadable := readable first (List.mem_cons_self ..)
    have restReadable := ih fun term member => readable term (List.mem_cons_of_mem _ member)
    cases rest with
    | nil => exact firstReadable
    | cons second others => exact firstReadable.around restReadable verbatim starts stop

/-- Without a separator each term has to end the one before it. -/
theorem readable_adjoined (readable : ∀ term ∈ terms, term.Readable)
    (opens : ∀ term ∈ terms, term.Opens) :
    (joined "" terms).Readable ∧ (joined "" terms).Opens := by
  induction terms with
  | nil => exact ⟨readable_empty, opens_empty⟩
  | cons first rest ih =>
    have firstReadable := readable first (List.mem_cons_self ..)
    have firstOpens := opens first (List.mem_cons_self ..)
    obtain ⟨restReadable, restOpens⟩ :=
      ih (fun term member => readable term (List.mem_cons_of_mem _ member))
        (fun term member => opens term (List.mem_cons_of_mem _ member))
    cases rest with
    | nil => exact ⟨firstReadable, firstOpens⟩
    | cons second others =>
      have emptyOpens : (text "").Opens := opens_empty
      have firstText : (first ++ text "").Readable :=
        firstReadable.append_opens readable_empty emptyOpens
      exact ⟨firstText.append_opens restReadable restOpens,
        (firstOpens.append emptyOpens).append restOpens⟩

theorem readable_conditionClause {lead tail : String} (leadVerbatim : Verbatim lead)
    (tailVerbatim : Verbatim tail) (tailOpens : Postgres.Opens tail)
    (readable : ∀ term ∈ terms, term.Readable) :
    (conditionClause lead terms tail).Readable := by
  unfold conditionClause
  split
  · exact readable_empty
  · have condition : (joined " AND " terms).Readable :=
      readable_joined (verbatim_of_isPlainText rfl) rfl rfl readable
    exact (Readable.text_append leadVerbatim condition).append_text tailVerbatim tailOpens

theorem opens_conditionClause {lead : String} {c : Char} (tail : String)
    (starts : lead.toList.head? = some c) (stop : isNamePart c = false) :
    (conditionClause lead terms tail).Opens := by
  unfold conditionClause
  split
  · exact opens_empty
  · exact ((starts_text starts).append.append).opens stop

theorem readable_comparison {column : String} (quoting : isQuote style.quote = true)
    (plain : isPlainText column = true) (readable : body.Readable) :
    (comparison style column body).Readable := by
  unfold comparison
  split
  · exact .text_append ((verbatim_of_isPlainText plain).append (verbatim_of_isPlainText rfl))
      readable
  · exact .text_append ((style.verbatim_quoted quoting plain).append (verbatim_of_isPlainText rfl))
      readable

theorem readable_selectComparison {column : String} (quoting : isQuote style.quote = true)
    (plain : isPlainText column = true) (readable : body.Readable) :
    (selectComparison style column body).Readable := by
  unfold selectComparison
  refine .text_append ?_ (readable_parenthesized readable.nested)
  split
  · exact (verbatim_of_isPlainText plain).append (verbatim_of_isPlainText rfl)
  · exact (style.verbatim_quoted quoting plain).append (verbatim_of_isPlainText rfl)

theorem readable_nullTest {column : String} (quoting : isQuote style.quote = true)
    (plain : isPlainText column = true) : (nullTest style column).Readable := by
  refine readable_text ?_
  split
  · exact verbatim_of_isPlainText plain
  · exact (style.verbatim_quoted quoting plain).append (verbatim_of_isPlainText rfl)

theorem readable_members {select : Option Template} (others : Nat)
    (chosen : ∀ body ∈ select, body.Readable) (readable : ∀ term ∈ terms, term.Readable) :
    (members others select terms).Readable := by
  unfold members
  split
  · next body =>
    have bodyReadable := chosen body rfl
    split
    · exact bodyReadable
    · exact bodyReadable.notice_append _
  · exact readable_joined (verbatim_of_isPlainText rfl) rfl rfl readable

theorem readable_projection (readable : ∀ term ∈ terms, term.Readable) :
    (projection terms).Readable := by
  unfold projection
  split
  · exact readable_text (verbatim_of_isPlainText rfl)
  · exact readable_joined (verbatim_of_isPlainText rfl) rfl rfl readable

theorem readable_joinClause (kind : JoinKind) {target : String} (plain : isPlainText target = true)
    (readable : ∀ term ∈ terms, term.Readable) :
    (joinClause kind target terms).Readable ∧ (joinClause kind target terms).Opens := by
  have keyword : Verbatim kind.keyword := verbatim_of_isPlainText (by cases kind <;> rfl)
  have lead : Verbatim ("\r\n" ++ kind.keyword ++ " " ++ target) :=
    (((verbatim_of_isPlainText rfl).append keyword).append (verbatim_of_isPlainText rfl)).append
      (verbatim_of_isPlainText plain)
  have starts : ("\r\n" ++ kind.keyword ++ " " ++ target).toList.head? = some '\r' := by
    simp [String.toList_append]
  have space : Verbatim " " := verbatim_of_isPlainText rfl
  have spaceOpens : Postgres.Opens " " := Postgres.opens_of_head? rfl rfl
  have on : (joined " AND " terms).Readable :=
    readable_joined (verbatim_of_isPlainText rfl) rfl rfl readable
  refine ⟨?_, ((starts_text starts).append.append).opens rfl⟩
  refine (Readable.text_append lead ?_).append_text space spaceOpens
  split
  · exact on
  · exact (Readable.text_append (verbatim_of_isPlainText rfl) on).append_text space spaceOpens

theorem readable_sourceTable {table : String} (unionAll : Bool) (plain : isPlainText table = true)
    (readable : ∀ term ∈ terms, term.Readable) :
    (sourceTable table unionAll terms).Readable := by
  unfold sourceTable
  split
  · exact readable_text (verbatim_of_isPlainText plain)
  · have close : Verbatim (")) AS " ++ table) :=
      (verbatim_of_isPlainText rfl).append (verbatim_of_isPlainText plain)
    have closeOpens : Postgres.Opens (")) AS " ++ table) :=
      Postgres.opens_of_head? (c := ')') (by simp [String.toList_append]) rfl
    refine (Readable.text_append (verbatim_of_isPlainText rfl) ?_).append_text close closeOpens
    cases unionAll with
    | true => exact readable_joined (verbatim_of_isPlainText rfl) rfl rfl readable
    | false => exact readable_joined (verbatim_of_isPlainText rfl) rfl rfl readable

theorem readable_columnClause (keyword : String) {columns : List String}
    (quoting : isQuote style.quote = true) (keywordPlain : isPlainText keyword = true)
    (plain : columns.all isPlainText = true) :
    (columnClause style keyword columns).Readable ∧ (columnClause style keyword columns).Opens := by
  unfold columnClause
  split
  · exact ⟨readable_empty, opens_empty⟩
  · have verbatim : Verbatim ("\r\n" ++ keyword ++ " " ++
        ",".intercalate (columns.map style.quoted) ++ " ") :=
      ((((verbatim_of_isPlainText rfl).append (verbatim_of_isPlainText keywordPlain)).append
        (verbatim_of_isPlainText rfl)).append (style.verbatim_quotedList quoting plain)).append
          (verbatim_of_isPlainText rfl)
    exact ⟨readable_text verbatim,
      (starts_text (c := '\r') (by simp [String.toList_append])).opens rfl⟩

theorem readable_commaJoins {targets : List String} (plain : targets.all isPlainText = true) :
    (commaJoins targets).Readable ∧ (commaJoins targets).Opens := by
  unfold commaJoins
  split
  · exact ⟨readable_empty, opens_empty⟩
  · have list : Verbatim (",".intercalate targets) :=
      .intercalate (verbatim_of_isPlainText rfl) fun target member =>
        verbatim_of_isPlainText (List.all_eq_true.mp plain target member)
    exact ⟨readable_text (((verbatim_of_isPlainText rfl).append list).append
        (verbatim_of_isPlainText rfl)),
      (starts_text (c := ',') (by simp [String.toList_append])).opens rfl⟩

theorem readable_intoClause {target : Option String} (plain : target.all isPlainText = true) :
    (intoClause target).Readable ∧ (intoClause target).Opens := by
  unfold intoClause
  split
  · next target =>
    split
    · exact ⟨readable_empty, opens_empty⟩
    · exact ⟨readable_text (((verbatim_of_isPlainText rfl).append
          (verbatim_of_isPlainText plain)).append (verbatim_of_isPlainText rfl)),
        (starts_text (c := '\r') (by simp [String.toList_append])).opens rfl⟩
  · exact ⟨readable_empty, opens_empty⟩

theorem readable_limitClause (style : Style) {limit : Limit} (page : Option UInt64)
    (plain : limit.passes .plain = true) :
    (limitClause style limit page).Readable ∧ (limitClause style limit page).Opens := by
  unfold limitClause
  split
  · next body written =>
    exact ⟨readable_text (((verbatim_of_isPlainText rfl).append
        (verbatim_paginate plain written)).append (verbatim_of_isPlainText rfl)),
      (starts_text (c := '\r') (by simp [String.toList_append])).opens rfl⟩
  · exact ⟨readable_empty, opens_empty⟩

end Template

mutual

theorem Operand.readable_template {style : Style} (quoting : isQuote style.quote = true) :
    (operand : Operand) → operand.passes .plain = true → (operand.template style).Readable
  | .value value, _ => Template.readable_scalar value
  | .fragment _, plain => Template.readable_fragment plain
  | .select select, plain =>
    Template.readable_parenthesized (Select.readable_template quoting select plain).nested

theorem Operand.readable_templates {style : Style} (quoting : isQuote style.quote = true) :
    (operands : List Operand) → Operand.allPass .plain operands = true →
      ∀ term ∈ Operand.templates style operands, term.Readable
  | [], _ => List.forall_mem_nil _
  | operand :: rest, plain => by
    obtain ⟨firstPlain, restPlain⟩ := Bool.and_eq_true_iff.mp plain
    exact List.forall_mem_cons.mpr ⟨Operand.readable_template quoting operand firstPlain,
      Operand.readable_templates quoting rest restPlain⟩

theorem Operand.readable_firstSelect {style : Style} (quoting : isQuote style.quote = true) :
    (operands : List Operand) → Operand.allPass .plain operands = true →
      ∀ body ∈ Operand.firstSelect style operands, body.Readable
  | [], _ => by
    intro body chosen
    cases chosen
  | .value _ :: rest, plain => Operand.readable_firstSelect quoting rest
    (Bool.and_eq_true_iff.mp plain).2
  | .fragment _ :: rest, plain => Operand.readable_firstSelect quoting rest
    (Bool.and_eq_true_iff.mp plain).2
  | .select select :: rest, plain => by
    intro body chosen
    have selectPlain := (Bool.and_eq_true_iff.mp plain).1
    rw [← Option.some.inj chosen]
    exact (Select.readable_template quoting select selectPlain).nested

theorem Predicate.readable_template {style : Style} (quoting : isQuote style.quote = true)
    (parameterized : Bool) : (predicate : Predicate) →
      predicate.passes .plain parameterized = true →
        (predicate.template style parameterized).Readable
  | .raw _, plain => Template.readable_fragment plain
  | .isNull _, plain => Template.readable_nullTest quoting plain
  | .equal _ (.value .null), plain =>
    Template.readable_nullTest quoting (Bool.and_eq_true_iff.mp plain).1
  | .equal _ (.value (.bool _)), plain | .equal _ (.value (.int _)), plain
  | .equal _ (.value (.float _)), plain | .equal _ (.value (.text _)), plain => by
    obtain ⟨columnPlain, literalPlain⟩ := Bool.and_eq_true_iff.mp plain
    refine Template.readable_comparison quoting columnPlain ?_
    cases parameterized with
    | true => exact Template.readable_scalar _
    | false => exact Template.readable_text (verbatim_of_isPlainText literalPlain)
  | .equal _ (.fragment _), plain => by
    obtain ⟨columnPlain, fragmentPlain⟩ := Bool.and_eq_true_iff.mp plain
    exact Template.readable_comparison quoting columnPlain
      (Template.readable_fragment fragmentPlain)
  | .equal _ (.select select), plain => by
    obtain ⟨columnPlain, selectPlain⟩ := Bool.and_eq_true_iff.mp plain
    exact Template.readable_selectComparison quoting columnPlain
      (Select.readable_template quoting select selectPlain)
  | .subSelect _ select, plain => by
    obtain ⟨columnPlain, selectPlain⟩ := Bool.and_eq_true_iff.mp plain
    exact Template.readable_selectComparison quoting columnPlain
      (Select.readable_template quoting select selectPlain)
  | .among _ [], _ => Template.readable_text (verbatim_of_isPlainText rfl)
  | .among column (first :: rest), plain => by
    obtain ⟨columnPlain, operandsPlain⟩ := Bool.and_eq_true_iff.mp plain
    have lead : Verbatim (style.quoted column ++ " IN ") :=
      (style.verbatim_quoted quoting columnPlain).append (verbatim_of_isPlainText rfl)
    have inside := Template.readable_members rest.length
      (Operand.readable_firstSelect quoting (first :: rest) operandsPlain)
      (Operand.readable_templates quoting (first :: rest) operandsPlain)
    exact .text_append lead (Template.readable_parenthesized inside)

theorem Predicate.readable_templates {style : Style} (quoting : isQuote style.quote = true)
    (parameterized : Bool) : (predicates : List Predicate) →
      Predicate.allPass .plain parameterized predicates = true →
        ∀ term ∈ Predicate.templates style parameterized predicates, term.Readable
  | [], _ => List.forall_mem_nil _
  | predicate :: rest, plain => by
    obtain ⟨firstPlain, restPlain⟩ := Bool.and_eq_true_iff.mp plain
    exact List.forall_mem_cons.mpr
      ⟨Predicate.readable_template quoting parameterized predicate firstPlain,
      Predicate.readable_templates quoting parameterized rest restPlain⟩

theorem Field.readable_template {style : Style} (quoting : isQuote style.quote = true) :
    (field : Field) → field.passes .plain = true → (field.template style).Readable
  | .expression _, plain => Template.readable_text (verbatim_of_isPlainText plain)
  | .aliased _ _, plain => by
    obtain ⟨columnPlain, namePlain⟩ := Bool.and_eq_true_iff.mp plain
    exact Template.readable_text (((style.verbatim_quoted quoting columnPlain).append
      (verbatim_of_isPlainText rfl)).append (style.verbatim_quoted quoting namePlain))
  | .subSelect name select, plain => by
    obtain ⟨namePlain, selectPlain⟩ := Bool.and_eq_true_iff.mp plain
    have named : Verbatim (" AS " ++ style.quoted name) :=
      (verbatim_of_isPlainText rfl).append (style.verbatim_quoted quoting namePlain)
    have body := (Select.readable_template quoting select selectPlain).nested
    exact (Template.readable_parenthesized body).append_text named
      (Postgres.opens_of_head? (c := ' ') (by simp [String.toList_append]) rfl)

theorem Field.readable_templates {style : Style} (quoting : isQuote style.quote = true) :
    (fields : List Field) → Field.allPass .plain fields = true →
      ∀ term ∈ Field.templates style fields, term.Readable
  | [], _ => List.forall_mem_nil _
  | field :: rest, plain => by
    obtain ⟨firstPlain, restPlain⟩ := Bool.and_eq_true_iff.mp plain
    exact List.forall_mem_cons.mpr ⟨Field.readable_template quoting field firstPlain,
      Field.readable_templates quoting rest restPlain⟩

theorem Join.readable_template {style : Style} (quoting : isQuote style.quote = true) :
    (join : Join) → join.passes .plain = true →
      (join.template style).Readable ∧ (join.template style).Opens
  | ⟨kind, _, on⟩, plain => by
    obtain ⟨targetPlain, onPlain⟩ := Bool.and_eq_true_iff.mp plain
    exact Template.readable_joinClause kind targetPlain
      (Predicate.readable_templates quoting false on onPlain)

theorem Join.readable_templates {style : Style} (quoting : isQuote style.quote = true) :
    (joins : List Join) → Join.allPass .plain joins = true →
      ∀ term ∈ Join.templates style joins, term.Readable ∧ term.Opens
  | [], _ => List.forall_mem_nil _
  | join :: rest, plain => by
    obtain ⟨firstPlain, restPlain⟩ := Bool.and_eq_true_iff.mp plain
    exact List.forall_mem_cons.mpr ⟨Join.readable_template quoting join firstPlain,
      Join.readable_templates quoting rest restPlain⟩

theorem Joins.readable_template {style : Style} (quoting : isQuote style.quote = true) :
    (joins : Joins) → joins.passes .plain = true →
      (joins.template style).Readable ∧ (joins.template style).Opens
  | ⟨comma, typed⟩, plain => by
    obtain ⟨commaPlain, typedPlain⟩ := Bool.and_eq_true_iff.mp plain
    have terms := Join.readable_templates quoting typed typedPlain
    obtain ⟨commaReadable, commaOpens⟩ := Template.readable_commaJoins commaPlain
    obtain ⟨typedReadable, typedOpens⟩ := Template.readable_adjoined
      (fun term member => (terms term member).1) fun term member => (terms term member).2
    exact ⟨commaReadable.append_opens typedReadable typedOpens, commaOpens.append typedOpens⟩

/-- Every clause of a select ends a placeholder that stands before it. -/
theorem Select.readable_template {style : Style} (quoting : isQuote style.quote = true) :
    (select : Select) → select.passes .plain = true → (select.template style).Readable
  | ⟨_, _, fields, _, joins, filter, _, having, _, _, page, unions, unionAll, _⟩, plain => by
    simp only [Select.passes, Bool.and_eq_true] at plain
    obtain ⟨⟨⟨⟨⟨⟨⟨⟨⟨tablePlain, fieldsPlain⟩, intoPlain⟩, joinsPlain⟩, filterPlain⟩, groupPlain⟩,
      havingPlain⟩, orderPlain⟩, limitPlain⟩, unionsPlain⟩ := plain
    have selectVerbatim : Verbatim "SELECT " := verbatim_of_isPlainText rfl
    have fromVerbatim : Verbatim " FROM " := verbatim_of_isPlainText rfl
    have whereVerbatim : Verbatim "\r\nWHERE " := verbatim_of_isPlainText rfl
    have havingVerbatim : Verbatim "\r\nHAVING " := verbatim_of_isPlainText rfl
    have blank : Verbatim "" := verbatim_of_isPlainText rfl
    have space : Verbatim " " := verbatim_of_isPlainText rfl
    have terminator : Verbatim ";" := verbatim_of_isPlainText rfl
    have columns := Template.readable_projection
      (Field.readable_templates quoting fields fieldsPlain)
    obtain ⟨intoReadable, intoOpens⟩ := Template.readable_intoClause intoPlain
    have source := Template.readable_sourceTable unionAll tablePlain
      (Select.readable_templates quoting unions unionsPlain)
    obtain ⟨joinsReadable, joinsOpens⟩ := Joins.readable_template quoting joins joinsPlain
    have filterReadable := Template.readable_conditionClause whereVerbatim blank
      Postgres.opens_empty (Predicate.readable_templates quoting true filter filterPlain)
    have groupClause := Template.readable_columnClause "GROUP BY" quoting rfl groupPlain
    have havingReadable := Template.readable_conditionClause havingVerbatim space
      (Postgres.opens_of_head? rfl rfl)
      (Predicate.readable_templates quoting true having havingPlain)
    have orderClause := Template.readable_columnClause "ORDER BY" quoting rfl orderPlain
    have limitClause := Template.readable_limitClause style page limitPlain
    have upToSource := ((Template.Readable.text_append selectVerbatim columns).append_opens
      intoReadable intoOpens).around source fromVerbatim rfl rfl
    have upToFilter := (upToSource.append_opens joinsReadable joinsOpens).append_opens
      filterReadable (Template.opens_conditionClause "" rfl rfl)
    have upToHaving := (upToFilter.append_opens groupClause.1 groupClause.2).append_opens
      havingReadable (Template.opens_conditionClause " " rfl rfl)
    have upToLimit := (upToHaving.append_opens orderClause.1 orderClause.2).append_opens
      limitClause.1 limitClause.2
    simpa only [Select.template] using
      upToLimit.append_text terminator (Postgres.opens_of_head? rfl rfl)

theorem Select.readable_templates {style : Style} (quoting : isQuote style.quote = true) :
    (selects : List Select) → Select.allPass .plain selects = true →
      ∀ term ∈ Select.templates style selects, term.Readable
  | [], _ => List.forall_mem_nil _
  | select :: rest, plain => by
    obtain ⟨firstPlain, restPlain⟩ := Bool.and_eq_true_iff.mp plain
    exact List.forall_mem_cons.mpr ⟨(Select.readable_template quoting select firstPlain).nested,
      Select.readable_templates quoting rest restPlain⟩

end

theorem Assignments.readable_template {style : Style} {assignments : Assignments}
    (quoting : isQuote style.quote = true) (plain : assignments.passes .plain = true) :
    (Assignments.template style assignments).Readable := by
  refine Template.readable_joined (verbatim_of_isPlainText rfl) rfl rfl ?_
  intro term member
  obtain ⟨assignment, inList, rfl⟩ := List.mem_map.mp member
  obtain ⟨columnPlain, operandPlain⟩ :=
    Bool.and_eq_true_iff.mp (List.all_eq_true.mp plain assignment inList)
  have lead : Verbatim (style.quoted assignment.1 ++ "=") :=
    (style.verbatim_quoted quoting columnPlain).append (verbatim_of_isPlainText rfl)
  exact .text_append lead (Operand.readable_template quoting assignment.2 operandPlain)

theorem Row.readable_tuple {expressions : List Template}
    (readable : ∀ expression ∈ expressions, expression.Readable) :
    (Row.tuple expressions).Readable := by
  unfold Row.tuple
  split
  · exact Template.readable_empty
  · exact Template.readable_parenthesized
      (Template.readable_joined (verbatim_of_isPlainText rfl) rfl rfl readable)

mutual

theorem Row.readable_template {style : Style} (quoting : isQuote style.quote = true) :
    (row : Row) → row.valuesPass .plain = true → (row.template style).Readable
  | .assigned assignments, plain => by
    refine Row.readable_tuple ?_
    intro term member
    obtain ⟨operand, inRow, rfl⟩ := List.mem_map.mp member
    obtain ⟨assignment, inList, rfl⟩ := List.mem_map.mp inRow
    exact Operand.readable_template quoting assignment.2
      (List.all_eq_true.mp plain assignment inList)
  | .columns names, _ => by
    refine Row.readable_tuple ?_
    intro term member
    obtain ⟨name, _, rfl⟩ := List.mem_map.mp member
    exact Template.readable_scalar (.text name)
  | .many rows, plain => Template.readable_joined (verbatim_of_isPlainText rfl) rfl rfl
    (Row.readable_templates quoting rows plain)

theorem Row.readable_templates {style : Style} (quoting : isQuote style.quote = true) :
    (rows : List Row) → Row.allValuesPass .plain rows = true →
      ∀ term ∈ Row.templates style rows, term.Readable
  | [], _ => List.forall_mem_nil _
  | row :: rest, plain => by
    obtain ⟨firstPlain, restPlain⟩ := Bool.and_eq_true_iff.mp plain
    exact List.forall_mem_cons.mpr ⟨Row.readable_template quoting row firstPlain,
      Row.readable_templates quoting rest restPlain⟩

end

theorem Insert.verbatim_columnList {style : Style} {columns : List String}
    (quoting : isQuote style.quote = true) (plain : columns.all isPlainText = true) :
    Verbatim (Insert.columnList style columns) := by
  unfold Insert.columnList
  split
  · exact verbatim_of_isPlainText rfl
  · have list := Style.verbatim_quotedList quoting plain
    exact ((verbatim_of_isPlainText rfl).append list).append (verbatim_of_isPlainText rfl)

theorem Insert.readable_onDuplicateClause {insert : Insert}
    (quoting : isQuote insert.style.quote = true)
    (plain : Assignments.passes .plain insert.onDuplicate = true) :
    insert.onDuplicateClause.Readable ∧ insert.onDuplicateClause.Opens := by
  unfold Insert.onDuplicateClause
  split
  · exact ⟨Template.readable_empty, Template.opens_empty⟩
  · exact ⟨.text_append (verbatim_of_isPlainText rfl) (Assignments.readable_template quoting plain),
      (Template.starts_text rfl).append.opens rfl⟩

theorem Insert.readable_template {insert : Insert} (quoting : isQuote insert.style.quote = true)
    (plain : insert.passes .plain = true) : insert.template.Readable := by
  simp only [Insert.passes, Bool.and_eq_true] at plain
  obtain ⟨⟨⟨⟨tablePlain, columnsPlain⟩, valuesPlain⟩, sourcePlain⟩, onDuplicatePlain⟩ := plain
  have instruction : Verbatim insert.instruction := by
    unfold Insert.instruction
    split
    · exact verbatim_of_isPlainText rfl
    · split
      · exact verbatim_of_isPlainText rfl
      · exact verbatim_of_isPlainText rfl
  have lead : Verbatim (insert.instruction ++ " " ++ insert.style.quoted insert.table ++
      Insert.columnList insert.style insert.row.columnNames ++ " \r\n") :=
    (((instruction.append (verbatim_of_isPlainText rfl)).append
      (Style.verbatim_quoted quoting tablePlain)).append
        (Insert.verbatim_columnList quoting columnsPlain)).append (verbatim_of_isPlainText rfl)
  have body : insert.body.Readable := by
    unfold Insert.body
    split
    · next select isSource =>
      rw [isSource] at sourcePlain
      exact (Select.readable_template quoting select sourcePlain).nested
    · exact .text_append (verbatim_of_isPlainText rfl)
        (Row.readable_template quoting insert.row valuesPlain)
  obtain ⟨onDuplicate, onDuplicateOpens⟩ :=
    Insert.readable_onDuplicateClause quoting onDuplicatePlain
  exact ((Template.Readable.text_append lead body).append_opens onDuplicate
    onDuplicateOpens).append_text (verbatim_of_isPlainText rfl) (Postgres.opens_of_head? rfl rfl)

theorem Update.readable_template {update : Update} (quoting : isQuote update.style.quote = true)
    (plain : update.passes .plain = true) : update.template.Readable := by
  simp only [Update.passes, Bool.and_eq_true] at plain
  obtain ⟨⟨⟨tablePlain, joinsPlain⟩, assignmentsPlain⟩, filterPlain⟩ := plain
  have lead : Verbatim ("UPDATE " ++ update.style.quoted update.table) :=
    (verbatim_of_isPlainText rfl).append (Style.verbatim_quoted quoting tablePlain)
  have setVerbatim : Verbatim " \r\nSET " := verbatim_of_isPlainText rfl
  have joins := (Joins.readable_template quoting update.joins joinsPlain).1
  have assignments := Assignments.readable_template quoting assignmentsPlain
  have whereVerbatim : Verbatim " \r\nWHERE " := verbatim_of_isPlainText rfl
  have blank : Verbatim "" := verbatim_of_isPlainText rfl
  have filter := Template.readable_conditionClause whereVerbatim blank Postgres.opens_empty
    (Predicate.readable_templates quoting true update.filter filterPlain)
  have upToAssignments :=
    (Template.Readable.text_append lead joins).around assignments setVerbatim rfl rfl
  have upToFilter :=
    upToAssignments.append_opens filter (Template.opens_conditionClause "" rfl rfl)
  exact upToFilter.append_text (verbatim_of_isPlainText rfl) (Postgres.opens_of_head? rfl rfl)

theorem Delete.readable_template {delete : Delete} (quoting : isQuote delete.style.quote = true)
    (plain : delete.passes .plain = true) : delete.template.Readable := by
  obtain ⟨tablePlain, filterPlain⟩ := Bool.and_eq_true_iff.mp plain
  have lead : Verbatim ("DELETE FROM " ++ delete.style.quoted delete.table) :=
    (verbatim_of_isPlainText rfl).append (Style.verbatim_quoted quoting tablePlain)
  have whereVerbatim : Verbatim " \r\nWHERE " := verbatim_of_isPlainText rfl
  have blank : Verbatim "" := verbatim_of_isPlainText rfl
  have filter := Template.readable_conditionClause whereVerbatim blank Postgres.opens_empty
    (Predicate.readable_templates quoting true delete.filter filterPlain)
  exact (Template.Readable.text_append lead filter).append_text
    (verbatim_of_isPlainText rfl) (Postgres.opens_of_head? rfl rfl)

theorem Statement.readable_template {stmt : Statement} (quoting : isQuote stmt.style.quote = true)
    (plain : stmt.writtenPass .plain = true) : stmt.template.Readable := by
  cases stmt with
  | select stmt => exact Select.readable_template quoting stmt plain
  | insert stmt => exact Insert.readable_template quoting plain
  | update stmt => exact Update.readable_template quoting plain
  | delete stmt => exact Delete.readable_template quoting plain

end SqlWright
