import SqlWright.Proofs.Template.Texts
import SqlWright.Proofs.Statement.Scalars
/-! Conditions behind their keywords. WHERE and HAVING stand in front of every condition that has
an item, ON in front of every one that writes something. The two differ over one raw item without
a text and over nothing else. -/
namespace SqlWright

namespace Template

theorem isBlank_append (first second : Template) :
    (first ++ second).isBlank = (first.isBlank && second.isBlank) := rfl

theorem isBlank_comparison (style : Style) (column : String) (right : Template) :
    (comparison style column right).isBlank = false := by
  unfold comparison
  split <;> simp [isBlank_append, isBlank]

theorem isBlank_selectComparison (style : Style) (column : String) (body : Template) :
    (selectComparison style column body).isBlank = false := by
  unfold selectComparison
  split <;> simp [isBlank_append, isBlank]

theorem isBlank_nullTest (style : Style) (column : String) :
    (nullTest style column).isBlank = false := by
  unfold nullTest
  split
  · next spaced =>
    have nonempty : column ≠ "" := by
      rintro rfl
      cases spaced
    simp [isBlank, nonempty]
  · simp [isBlank]

/-- Joined templates are blank if there are none, or a single blank one. -/
theorem isBlank_joined {separator : String} (nonempty : separator ≠ "") (terms : List Template) :
    (joined separator terms).isBlank = true ↔
      terms = [] ∨ ∃ term, terms = [term] ∧ term.isBlank = true := by
  fun_cases joined separator terms with
  | case1 => simp [empty, isBlank]
  | case2 last => simp
  | case3 first rest several =>
    have more : rest ≠ [] := several
    simp [isBlank_append, isBlank, nonempty, more]

end Template

namespace Operand

theorem templates_eq_map (style : Style) (operands : List Operand) :
    templates style operands = operands.map (template style) := by
  induction operands with
  | nil => rfl
  | cons first rest ih => rw [templates, ih, List.map_cons]

theorem firstSelect_eq_none {style : Style} {operands : List Operand}
    (free : ∀ operand ∈ operands, operand.isSelect = false) :
    firstSelect style operands = none := by
  induction operands with
  | nil => rfl
  | cons first rest ih =>
    have restFree := ih fun operand member => free operand (List.mem_cons_of_mem first member)
    cases first with
    | value _ => exact restFree
    | fragment _ => exact restFree
    | select _ => cases free _ (List.mem_cons_self ..)

end Operand

namespace Predicate

theorem templates_eq_map (style : Style) (parameterized : Bool) (predicates : List Predicate) :
    templates style parameterized predicates =
      predicates.map (template style parameterized) := by
  induction predicates with
  | nil => rfl
  | cons first rest ih => rw [templates, ih, List.map_cons]

/-- A raw condition without a text. -/
def isBlank : Predicate → Bool
  | .raw fragment => fragment.text.isEmpty
  | _ => false

/-- Every term but a raw one writes at least its operator. -/
theorem isBlank_template (style : Style) (parameterized : Bool) (predicate : Predicate) :
    (predicate.template style parameterized).isBlank = predicate.isBlank := by
  fun_cases Predicate.template style parameterized predicate
  all_goals
    simp [isBlank, Template.isBlank_append, Template.isBlank_comparison,
      Template.isBlank_selectComparison, Template.isBlank_nullTest, Template.isBlank]

end Predicate

namespace Predicates

variable {style : Style} {parameterized : Bool} {predicates : Predicates} {table : Table}

/-- The texts of the terms, each written over the table that the one before it left. -/
def terms (style : Style) (parameterized : Bool) (predicates : Predicates) (table : Table) :
    List String :=
  Template.emitEach (Predicate.templates style parameterized predicates) table

/-- What a condition writes behind its keyword. -/
def body (style : Style) (parameterized : Bool) (predicates : Predicates) (table : Table) :
    String :=
  " AND ".intercalate (predicates.terms style parameterized table)

theorem emit_joined_templates (style : Style) (parameterized : Bool) (predicates : Predicates)
    (table : Table) :
    ((Template.joined " AND " (Predicate.templates style parameterized predicates)).emit table).1 =
      predicates.body style parameterized table :=
  Template.emit_joined " AND " _ table

/-- What is written depends on the table through its counter. -/
theorem body_congr {other : Table} (same : table.next = other.next) :
    predicates.body style parameterized table = predicates.body style parameterized other := by
  rw [← emit_joined_templates, ← emit_joined_templates, Template.text_emit, Template.text_emit,
    same]

/-- The one condition that has an item and writes nothing. -/
def isLoneBlank : Predicates → Bool
  | [predicate] => predicate.isBlank
  | _ => false

theorem body_eq_empty_iff :
    predicates.body style parameterized table = "" ↔
      predicates = [] ∨ predicates.isLoneBlank = true := by
  rw [← emit_joined_templates, ← Template.isBlank_iff, Template.isBlank_joined (by decide),
    Predicate.templates_eq_map]
  match predicates with
  | [] => simp
  | [predicate] => simp [isLoneBlank, Predicate.isBlank_template]
  | first :: second :: rest => simp [isLoneBlank]

theorem emit_conditionClause {lead tail : String} (predicates : Predicates) (table : Table) :
    ((conditionClause lead (Predicate.templates style true predicates) tail).emit table).1 =
      if predicates = [] then "" else lead ++ predicates.body style true table ++ tail := by
  cases predicates with
  | nil => rfl
  | cons first rest =>
    rw [if_neg (List.cons_ne_nil first rest), ← emit_joined_templates]
    rfl

/-- ON stands in front of what the terms of a join write, if they write anything. -/
theorem emit_join (style : Style) (kind : JoinKind) (target : String) (on : Predicates)
    (table : Table) :
    let body := on.body style false table
    ((Join.template style ⟨kind, target, on⟩).emit table).1 =
      "\r\n" ++ kind.keyword ++ " " ++ target ++
        (if body = "" then "" else " ON " ++ body ++ " ") ++ " " := by
  intro body
  have written := emit_joined_templates style false on table
  have blank := Template.isBlank_iff
    (Template.joined " AND " (Predicate.templates style false on)) table
  rw [written] at blank
  simp only [Join.template, joinClause, Template.emit_append, Template.emit_text]
  by_cases emptied : body = ""
  · rw [if_pos (blank.mpr emptied), if_pos emptied, written]
    simp [show Predicates.body style false on table = "" from emptied]
  · rw [if_neg (mt blank.mp emptied), if_neg emptied]
    simp only [Template.emit_append, Template.emit_text, written]
    rfl

end Predicates

namespace Select

/-- The clauses before the filter. -/
def opening (select : Select) (style : Style) : Template :=
  .text "SELECT " ++ projection (Field.templates style select.fields)
    ++ intoClause select.into ++ .text " FROM "
    ++ sourceTable select.table select.unionAll (Select.templates style select.unions)
    ++ select.joins.template style

/-- The clauses after HAVING. -/
def closing (select : Select) (style : Style) : Template :=
  columnClause style "ORDER BY" select.orderBy
    ++ limitClause style select.limit select.page ++ .text ";"

end Select

/-- Where a condition stands: behind WHERE or HAVING of a select, which may be merged into a
statement of another style, behind WHERE of an update or a delete, or behind ON. -/
inductive ConditionPlace where
  | selectFilter (select : Select) (style : Style)
  | selectHaving (select : Select) (style : Style)
  | updateFilter (update : Update)
  | deleteFilter (delete : Delete)
  | joinOn (kind : JoinKind) (target : String) (style : Style)

/-- A statement's text has one place for a condition. The keyword and the body stand there if the
body is not empty, and nothing else does, unless the condition is one blank item, for which the
keyword stands alone. What follows depends on the condition through its number of scalars. -/
def HasPlaceFor (style : Style) (lead tail : String) (statement : Predicates → Template) : Prop :=
  ∀ table : Table, ∃ (front : String) (reached : Table) (back : Nat → String),
    ∀ predicates : Predicates,
      let text := ((statement predicates).emit table).1
      let body := predicates.body style true reached
      let behind := back (Predicate.allScalars true predicates).length
      (text = front ++ (if body = "" then "" else lead ++ body ++ tail) ++ behind ↔
        predicates.isLoneBlank = false) ∧
      (predicates.isLoneBlank = true → text = front ++ lead ++ tail ++ behind)

namespace ConditionPlace

def style : ConditionPlace → Style
  | .selectFilter _ style | .selectHaving _ style | .joinOn _ _ style => style
  | .updateFilter update => update.style
  | .deleteFilter delete => delete.style

/-- The scalars of equalities are bound, except behind ON. -/
def binds : ConditionPlace → Bool
  | .joinOn .. => false
  | .selectFilter .. | .selectHaving .. | .updateFilter _ | .deleteFilter _ => true

/-- What is written with a condition in this place. -/
def template : ConditionPlace → Predicates → Template
  | .selectFilter select style, filter => { select with filter }.template style
  | .selectHaving select style, having => { select with having }.template style
  | .updateFilter update, filter => { update with filter }.template
  | .deleteFilter delete, filter => { delete with filter }.template
  | .joinOn kind target style, on => Join.template style ⟨kind, target, on⟩

def lead : ConditionPlace → String
  | .selectFilter .. => "\r\nWHERE "
  | .selectHaving .. => "\r\nHAVING "
  | .updateFilter _ | .deleteFilter _ => " \r\nWHERE "
  | .joinOn .. => " ON "

def tail : ConditionPlace → String
  | .selectFilter .. | .updateFilter _ | .deleteFilter _ => ""
  | .selectHaving .. | .joinOn .. => " "

/-- The clauses before the condition. -/
def front : ConditionPlace → Template
  | .selectFilter select style => select.opening style
  | .selectHaving select style =>
    select.opening style
      ++ conditionClause "\r\nWHERE " (Predicate.templates style true select.filter) ""
      ++ columnClause style "GROUP BY" select.groupBy
  | .updateFilter update =>
    .text ("UPDATE " ++ update.style.quoted update.table) ++ update.joins.template update.style
      ++ .text " \r\nSET " ++ Assignments.template update.style update.assignments
  | .deleteFilter delete => .text ("DELETE FROM " ++ delete.style.quoted delete.table)
  | .joinOn kind target _ => .text ("\r\n" ++ kind.keyword ++ " " ++ target)

/-- The clauses after the condition. -/
def back : ConditionPlace → Template
  | .selectFilter select style =>
    columnClause style "GROUP BY" select.groupBy
      ++ conditionClause "\r\nHAVING " (Predicate.templates style true select.having) " "
      ++ select.closing style
  | .selectHaving select style => select.closing style
  | .updateFilter _ | .deleteFilter _ => .text ";"
  | .joinOn .. => .text " "

/-- The table that the condition is written over. -/
def reached (place : ConditionPlace) (table : Table) : Table := (place.front.emit table).2

/-- What is written after the condition, if it has these items. -/
def behind (place : ConditionPlace) (table : Table) (predicates : Predicates) : String :=
  place.back.outline.text
    ((place.reached table).next + (Predicate.allScalars place.binds predicates).length)

/-- The text that stands between the keyword and what is written after the condition. -/
def Holds (place : ConditionPlace) (table : Table) (predicates : Predicates)
    (condition : String) : Prop :=
  ((place.template predicates).emit table).1 =
    (place.front.emit table).1 ++ (place.lead ++ condition ++ place.tail)
      ++ place.behind table predicates

variable {place : ConditionPlace} {predicates : Predicates}

theorem outline_template (binds : place.binds = true) (predicates : Predicates) (index : Nat) :
    (place.template predicates).outline.text index =
      (place.front ++ conditionClause place.lead (Predicate.templates place.style true predicates)
        place.tail ++ place.back).outline.text index := by
  cases place with
  | selectFilter select style =>
    simp [template, front, back, lead, tail, ConditionPlace.style, Select.template, Select.opening,
      Select.closing, Template.text_append, Nat.add_assoc, String.append_assoc]
  | selectHaving select style =>
    simp [template, front, back, lead, tail, ConditionPlace.style, Select.template, Select.opening,
      Select.closing, Template.text_append, String.append_assoc]
  | updateFilter update => rfl
  | deleteFilter delete => rfl
  | joinOn => cases binds

/-- A place is empty if there are no items, and else the keyword stands in front of the terms. -/
theorem emit_template (binds : place.binds = true) (predicates : Predicates) (table : Table) :
    ((place.template predicates).emit table).1 =
      (place.front.emit table).1 ++
        (if predicates = [] then "" else
          place.lead ++ predicates.body place.style true (place.reached table) ++ place.tail) ++
        place.behind table predicates := by
  have clause := @Predicates.emit_conditionClause place.style place.lead place.tail predicates
    (place.reached table)
  rw [← clause]
  simp only [reached, behind, binds, Template.text_emit, outline_template binds,
    Template.text_append, Template.next_emit, Template.scalars_append,
    Template.scalars_conditionClause, Predicate.scalars_templates, List.length_append,
    Nat.add_assoc]

theorem lead_ne_empty (place : ConditionPlace) : place.lead ≠ "" := by
  cases place <;> simp [lead]

theorem hasPlaceFor (binds : place.binds = true) :
    HasPlaceFor place.style place.lead place.tail place.template := by
  intro table
  refine ⟨(place.front.emit table).1, place.reached table,
    fun count => place.back.outline.text ((place.reached table).next + count), ?_⟩
  intro predicates text body behind
  have spelled : text = (place.front.emit table).1 ++
      (if predicates = [] then "" else place.lead ++ body ++ place.tail) ++ behind := by
    have written := place.emit_template binds predicates table
    rw [ConditionPlace.behind, binds] at written
    exact written
  have blank : body = "" ↔ predicates = [] ∨ predicates.isLoneBlank = true :=
    Predicates.body_eq_empty_iff
  cases lone : predicates.isLoneBlank with
  | false =>
    have emptied : body = "" ↔ predicates = [] := by simpa [lone] using blank
    simp [spelled, emptied]
  | true =>
    have emptied : body = "" := blank.mpr (.inr lone)
    have some : predicates ≠ [] := by
      rintro rfl
      cases lone
    have alone : text = (place.front.emit table).1 ++ place.lead ++ place.tail ++ behind := by
      simp [spelled, emptied, some, String.append_assoc]
    refine ⟨iff_of_false ?_ (by decide), fun _ => alone⟩
    intro meant
    have lengths := congrArg String.length (alone.symm.trans meant)
    simp only [emptied, ↓reduceIte, String.length_append, String.length_empty] at lengths
    have visible : place.lead.length ≠ 0 := mt String.length_eq_zero_iff.mp place.lead_ne_empty
    omega

/-- Where scalars are bound, a condition with an item stands in its place with its terms joined. -/
theorem holds_body_of_ne_nil {table : Table} (binds : place.binds = true)
    (some : predicates ≠ []) :
    place.Holds table predicates (predicates.body place.style true (place.reached table)) := by
  rw [Holds, emit_template binds, if_neg some]

/-- A condition that writes something stands in any place with its terms joined. -/
theorem holds_body {table : Table}
    (written : predicates.body place.style place.binds (place.reached table) ≠ "") :
    place.Holds table predicates
      (predicates.body place.style place.binds (place.reached table)) := by
  cases binds : place.binds with
  | true =>
    have some : predicates ≠ [] := fun none =>
      written (Predicates.body_eq_empty_iff.mpr (.inl none))
    exact holds_body_of_ne_nil binds some
  | false =>
    cases place with
    | joinOn kind target style =>
      have visible : predicates.body style false table ≠ "" := written
      have joined := Predicates.emit_join style kind target predicates table
      dsimp only at joined
      rw [if_neg visible] at joined
      exact joined
    | _ => cases binds

end ConditionPlace

/-- A condition writes nothing if it has no items, or one raw item without a text. The keyword of
a WHERE or HAVING stands if something is written, and over that one item; ON stands if something is
written. -/
theorem keyword_stands_unless_body_is_empty (style : Style) (select : Select) (update : Update)
    (delete : Delete) (kind : JoinKind) (target : String) :
    (∀ (parameterized : Bool) (predicates : Predicates) (table : Table),
      predicates.body style parameterized table = "" ↔
        predicates = [] ∨ predicates.isLoneBlank = true) ∧
    (HasPlaceFor style "\r\nWHERE " "" fun filter => { select with filter }.template style) ∧
    (HasPlaceFor style "\r\nHAVING " " " fun having => { select with having }.template style) ∧
    (HasPlaceFor update.style " \r\nWHERE " "" fun filter => { update with filter }.template) ∧
    (HasPlaceFor delete.style " \r\nWHERE " "" fun filter => { delete with filter }.template) ∧
    (∀ (on : Predicates) (table : Table),
      let body := on.body style false table
      ((Join.template style ⟨kind, target, on⟩).emit table).1 =
        "\r\n" ++ kind.keyword ++ " " ++ target ++
          (if body = "" then "" else " ON " ++ body ++ " ") ++ " ") := by
  refine ⟨?_, (ConditionPlace.selectFilter select style).hasPlaceFor rfl,
    (ConditionPlace.selectHaving select style).hasPlaceFor rfl,
    (ConditionPlace.updateFilter update).hasPlaceFor rfl,
    (ConditionPlace.deleteFilter delete).hasPlaceFor rfl,
    Predicates.emit_join style kind target⟩
  intro parameterized predicates table
  exact Predicates.body_eq_empty_iff

/-- WHERE stands in front of nothing over a raw item without a text, which a caller can add. -/
theorem keyword_stands_over_blank_item :
    let blank : Predicates := Predicates.ofList [.raw (.ofText "")]
    let delete := { Delete.draft "t" .standard with filter := blank }
    blank.body .standard true {} = "" ∧
      (Builder.render delete).1.sql = "DELETE FROM `t` \r\nWHERE ;" ∧
      (Builder.render { delete with filter := [] }).1.sql = "DELETE FROM `t`;" := by
  intro blank delete
  exact ⟨rfl, by decide, by decide⟩

end SqlWright
