import SqlWright.Proofs.Statement.Conditions
import SqlWright.Proofs.Template.Written
/-! What the terms of a join write. An equality writes its scalar as a literal, so that a column can
be named there; a membership test binds the scalars of its list as it does in any other clause. -/
namespace SqlWright

/-- What stands in front of the right-hand side of a comparison. -/
def leftSide (style : Style) (column : String) : String :=
  if hasSpace column then column ++ " " else style.quoted column ++ "="

namespace Operand

/-- The operand as a scalar, if it is one. -/
def scalar? : Operand → Option Value
  | .value scalar => some scalar
  | _ => none

/-- A scalar in a list stands as a generated name that the table holds it under, a fragment as its
text. -/
def StandsListed (params : Table) : Operand → String → Prop
  | .value scalar, text =>
    ∃ index, text = Placeholder.generated index ∧ (text, scalar) ∈ params.entries
  | .fragment source, text => text = source.text
  | .select _, _ => False

variable {style : Style} {operands : List Operand}

theorem firstSelectScalars_eq_none (free : ∀ operand ∈ operands, operand.isSelect = false) :
    firstSelectScalars operands = none := by
  rw [← scalars_firstSelect .standard, firstSelect_eq_none free]
  rfl

theorem allScalars_eq_filterMap (free : ∀ operand ∈ operands, operand.isSelect = false) :
    allScalars operands = operands.filterMap scalar? := by
  induction operands with
  | nil => rfl
  | cons first rest ih =>
    have restFree := ih fun operand member => free operand (List.mem_cons_of_mem first member)
    cases first with
    | value _ => simp [allScalars, scalars, scalar?, restFree]
    | fragment _ => simp [allScalars, scalars, scalar?, restFree, List.filterMap_cons]
    | select _ => cases free _ (List.mem_cons_self ..)

theorem standsListed_of_writtenIn {params : Table} {operand : Operand} {text : String}
    (free : operand.isSelect = false) (written : (operand.template style).WrittenIn params text) :
    operand.StandsListed params text := by
  cases operand with
  | value _ => exact Template.writtenIn_scalar.mp written
  | fragment _ =>
    obtain ⟨_, _, rfl⟩ := written
    rfl
  | select _ => cases free

end Operand

namespace Predicate

/-- No operand of the condition is a select. -/
def isSelectFree : Predicate → Bool
  | .raw _ | .isNull _ => true
  | .equal _ operand => !operand.isSelect
  | .among _ operands => operands.all fun operand => !operand.isSelect
  | .subSelect .. => false

/-- The scalars in the list of a membership test. -/
def listed : Predicate → List Value
  | .among _ operands => operands.filterMap Operand.scalar?
  | _ => []

/-- A text is the term of a condition without selects in a join. -/
inductive StandsOn (style : Style) (params : Table) : Predicate → String → Prop where
  | raw (fragment : Fragment) : StandsOn style params (.raw fragment) fragment.text
  | isNull (column : String) :
    StandsOn style params (.isNull column)
      (if hasSpace column then column else style.quoted column ++ " IS NULL")
  | equalNull (column : String) :
    StandsOn style params (.equal column (.value .null))
      (if hasSpace column then column else style.quoted column ++ " IS NULL")
  | literal (column : String) {value : Value} (given : value ≠ .null) :
    StandsOn style params (.equal column (.value value)) (leftSide style column ++ value.literal)
  | expression (column : String) (fragment : Fragment) :
    StandsOn style params (.equal column (.fragment fragment))
      (leftSide style column ++ fragment.text)
  | never (column : String) : StandsOn style params (.among column []) "1=0"
  | listed (column : String) {operands : List Operand} {items : List String}
    (nonempty : operands ≠ []) (each : List.Forall₂ (Operand.StandsListed params) operands items) :
    StandsOn style params (.among column operands)
      (style.quoted column ++ " IN " ++ "(" ++ ",".intercalate items ++ ")")

variable {style : Style} {params : Table} {predicate : Predicate} {text : String}

theorem exists_comparison {column : String} {right : Template}
    (written : (comparison style column right).WrittenIn params text) :
    ∃ rightText, text = leftSide style column ++ rightText ∧ right.WrittenIn params rightText := by
  unfold comparison at written
  unfold leftSide
  split at written
  all_goals
    obtain ⟨_, rightText, rfl, left, rightWritten⟩ := written.exists_append
    exact ⟨rightText, by rw [left.eq_literal]; simp [*], rightWritten⟩

theorem exists_listed {column : String} {first : Operand} {rest : List Operand}
    (free : ∀ operand ∈ first :: rest, operand.isSelect = false)
    (written : ((among column (first :: rest)).template style false).WrittenIn params text) :
    ∃ items, text = style.quoted column ++ " IN " ++ "(" ++ ",".intercalate items ++ ")" ∧
      List.Forall₂ (Operand.StandsListed params) (first :: rest) items := by
  simp only [template, Operand.firstSelect_eq_none free, Operand.templates_eq_map, members]
    at written
  obtain ⟨_, _, rfl, left, inside⟩ := written.exists_append
  obtain ⟨_, rfl, list⟩ := inside.exists_parenthesized
  obtain ⟨items, rfl, each⟩ := list.exists_joined
  rw [List.forall₂_map_left_iff] at each
  refine ⟨items, ?_, ((List.forall₂_and_left _ _).mpr ⟨free, each⟩).imp ?_⟩
  · rw [left.eq_literal]
    simp only [String.append_assoc]
  · rintro operand item ⟨operandFree, itemWritten⟩
    exact Operand.standsListed_of_writtenIn operandFree itemWritten

theorem standsOn_of_writtenIn (free : predicate.isSelectFree = true)
    (written : (predicate.template style false).WrittenIn params text) :
    StandsOn style params predicate text := by
  cases predicate with
  | raw source =>
    obtain ⟨_, _, rfl⟩ := written
    exact .raw source
  | isNull column =>
    obtain rfl := written.eq_literal
    exact .isNull column
  | subSelect column select => cases free
  | equal column operand =>
    cases operand with
    | select select => cases free
    | fragment source =>
      simp only [template] at written
      obtain ⟨_, rfl, _, _, rfl⟩ := exists_comparison written
      exact .expression column source
    | value scalar =>
      by_cases null : scalar = .null
      · subst null
        obtain rfl := written.eq_literal
        exact .equalNull column
      · have spelled : (equal column (.value scalar)).template style false =
            comparison style column (.text scalar.literal) := by
          cases scalar with
          | null => exact absurd rfl null
          | _ => rfl
        rw [spelled] at written
        obtain ⟨right, rfl, rightWritten⟩ := exists_comparison written
        rw [rightWritten.eq_literal]
        exact .literal column null
  | among column operands =>
    cases operands with
    | nil =>
      obtain rfl := written.eq_literal
      exact .never column
    | cons first rest =>
      have freeOperands : ∀ operand ∈ first :: rest, operand.isSelect = false := by
        simpa [isSelectFree] using free
      obtain ⟨items, rfl, each⟩ := exists_listed freeOperands written
      exact .listed column (List.cons_ne_nil first rest) each

/-- Without selects a term of a join binds the scalars of its list, and no other ones. -/
theorem scalars_of_isSelectFree (free : predicate.isSelectFree = true) :
    predicate.scalars false = predicate.listed := by
  cases predicate with
  | raw _ => rfl
  | isNull _ => rfl
  | subSelect _ _ => cases free
  | equal _ operand =>
    cases operand with
    | select _ => cases free
    | fragment _ => rfl
    | value scalar => cases scalar <;> rfl
  | among _ operands =>
    have freeOperands : ∀ operand ∈ operands, operand.isSelect = false := by
      simpa [isSelectFree] using free
    rw [scalars, Operand.firstSelectScalars_eq_none freeOperands]
    exact Operand.allScalars_eq_filterMap freeOperands

theorem allScalars_of_isSelectFree {predicates : List Predicate}
    (free : ∀ predicate ∈ predicates, predicate.isSelectFree = true) :
    allScalars false predicates = predicates.flatMap listed := by
  induction predicates with
  | nil => rfl
  | cons first rest ih =>
    have firstFree := free first (List.mem_cons_self ..)
    have restFree := ih fun predicate member => free predicate (List.mem_cons_of_mem first member)
    rw [allScalars, scalars_of_isSelectFree firstFree, restFree, List.flatMap_cons]

end Predicate

namespace Join

/-- The text of a join with these terms. -/
def text (join : Join) (terms : List String) : String :=
  let on := " AND ".intercalate terms
  "\r\n" ++ join.kind.keyword ++ " " ++ join.target ++
    (if on = "" then "" else " ON " ++ on ++ " ") ++ " "

variable {style : Style} {params : Table} {join : Join} {written : String}

theorem templates_eq_map (style : Style) (joins : List Join) :
    templates style joins = joins.map (template style) := by
  induction joins with
  | nil => rfl
  | cons first rest ih => rw [templates, ih, List.map_cons]

/-- The terms stand behind ON, unless nothing is written for them. -/
theorem exists_terms (stands : (join.template style).WrittenIn params written) :
    ∃ terms, written = join.text terms ∧ List.Forall₂ (fun predicate term =>
      (predicate.template style false).WrittenIn params term) join.on terms := by
  obtain ⟨kind, target, on⟩ := join
  simp only [template, joinClause, Predicate.templates_eq_map] at stands
  obtain ⟨_, _, rfl, front, closing⟩ := stands.exists_append
  obtain ⟨_, clause, rfl, lead, clauseWritten⟩ := front.exists_append
  rw [lead.eq_literal, closing.eq_literal]
  -- The clause asks whether the template is blank, the text whether the body is empty.
  split at clauseWritten
  · next blank =>
    obtain ⟨terms, rfl, each⟩ := clauseWritten.exists_joined
    rw [List.forall₂_map_left_iff] at each
    refine ⟨terms, ?_, each⟩
    have nothing := (clauseWritten.isBlank_iff).mp blank
    simp [text, nothing]
  · next visible =>
    obtain ⟨_, _, rfl, opening, ending⟩ := clauseWritten.exists_append
    obtain ⟨_, body, rfl, keyword, bodyWritten⟩ := opening.exists_append
    obtain ⟨terms, rfl, each⟩ := bodyWritten.exists_joined
    rw [List.forall₂_map_left_iff] at each
    refine ⟨terms, ?_, each⟩
    have something := mt bodyWritten.isBlank_iff.mpr visible
    simp [text, something, keyword.eq_literal, ending.eq_literal]

theorem exists_allTerms {joins : List Join} {texts : List String}
    (free : ∀ join ∈ joins, ∀ predicate ∈ join.on, predicate.isSelectFree = true)
    (each : List.Forall₂ (fun join text => (template style join).WrittenIn params text)
      joins texts) :
    ∃ terms : List (List String), texts = List.zipWith text joins terms ∧
      List.Forall₂ (fun join terms =>
        List.Forall₂ (Predicate.StandsOn style params) join.on terms) joins terms := by
  induction each with
  | nil => exact ⟨[], rfl, .nil⟩
  | @cons join _ rest _ stands _ ih =>
    obtain ⟨others, rfl, restStand⟩ :=
      ih fun join member => free join (List.mem_cons_of_mem _ member)
    obtain ⟨terms, rfl, termsWritten⟩ := exists_terms stands
    have freeTerms := free join (List.mem_cons_self ..)
    have termsStand := ((List.forall₂_and_left _ _).mpr ⟨freeTerms, termsWritten⟩).imp
      fun _ _ termStands => Predicate.standsOn_of_writtenIn termStands.1 termStands.2
    exact ⟨terms :: others, rfl, .cons termsStand restStand⟩

/-- The scalars that the conditions of joins list. -/
def listed (joins : List Join) : List Value :=
  joins.flatMap fun join => join.on.flatMap Predicate.listed

theorem allScalars_of_isSelectFree {joins : List Join}
    (free : ∀ join ∈ joins, ∀ predicate ∈ join.on, predicate.isSelectFree = true) :
    allScalars joins = listed joins := by
  induction joins with
  | nil => rfl
  | cons first rest ih =>
    have firstFree := Predicate.allScalars_of_isSelectFree (free first (List.mem_cons_self ..))
    have restFree := ih fun join member => free join (List.mem_cons_of_mem first member)
    obtain ⟨kind, target, on⟩ := first
    rw [allScalars, restFree, scalars, firstFree, listed, listed, List.flatMap_cons]

end Join

theorem commaJoins_eq_text (targets : List String) :
    commaJoins targets =
      .text (if targets.isEmpty then "" else "," ++ ",".intercalate targets ++ " ") := by
  unfold commaJoins
  split <;> rfl

/-- The joins of a select or an update, none of them with a select in its condition, leave the
counter where it is if no membership test of theirs lists a scalar. Else they move it by the listed
scalars and bind those. The scalar of an equality always stands in its term as the literal. -/
theorem joins_bind_listed_scalars (style : Style) {joins : Joins} (table : Table)
    (free : ∀ join ∈ joins.typed, ∀ predicate ∈ join.on, predicate.isSelectFree = true) :
    let written := (joins.template style).emit table
    (written.2.next = table.next ↔ Join.listed joins.typed = []) ∧
      written.2.next = table.next + (Join.listed joins.typed).length ∧
      Placeholder.numbered table.next (Join.listed joins.typed) ⊆ written.2.entries ∧
      ∃ terms : List (List String),
        written.1 =
          (if joins.comma.isEmpty then "" else "," ++ ",".intercalate joins.comma ++ " ") ++
            "".intercalate (List.zipWith Join.text joins.typed terms) ∧
        List.Forall₂ (fun join texts =>
          List.Forall₂ (Predicate.StandsOn style written.2) join.on texts) joins.typed terms := by
  obtain ⟨comma, typed⟩ := joins
  intro written
  have scalars : (Joins.template style ⟨comma, typed⟩).scalars = Join.listed typed :=
    (Joins.scalars_template style ⟨comma, typed⟩).trans (Join.allScalars_of_isSelectFree free)
  have counted : written.2.next = table.next + (Join.listed typed).length := by
    rw [← scalars]
    exact Template.next_emit _ table
  refine ⟨?_, counted, ?_, ?_⟩
  · rw [counted, Nat.add_eq_left, List.length_eq_zero_iff]
  · rw [← scalars]
    exact Template.numbered_subset_emit _ table
  · have stands : (commaJoins comma ++ .joined "" (typed.map (Join.template style))).WrittenIn
        written.2 written.1 := by
      rw [← Join.templates_eq_map]
      exact Template.writtenIn_emit (Joins.template style ⟨comma, typed⟩) table
    obtain ⟨front, _, spelled, frontWritten, typedWritten⟩ := stands.exists_append
    obtain ⟨texts, rfl, each⟩ := typedWritten.exists_joined
    rw [List.forall₂_map_left_iff] at each
    obtain ⟨terms, rfl, termsStand⟩ := Join.exists_allTerms free each
    rw [commaJoins_eq_text] at frontWritten
    exact ⟨terms, by rw [spelled, frontWritten.eq_literal], termsStand⟩

/-- A text that is compared names a column, and a number in a list is bound. -/
theorem joins_bind_listed_scalars_of_membership :
    let on := Predicates.ofList
      [.equal "o.user" (.value (.text "u.id")), .among "o.kind" [.value (.int 1)]]
    let joins := Joins.none.add ⟨.left, "orders o", on⟩
    let written := (joins.template .standard).emit {}
    (∀ join ∈ joins.typed, ∀ predicate ∈ join.on, predicate.isSelectFree = true) ∧
      written.2.next = 0 + (Join.listed joins.typed).length ∧
      written = ("\r\nLEFT JOIN orders o ON o.user=u.id AND o.kind IN (:p0)  ",
        ⟨[(":p0", .int 1)], 1⟩) := by
  intro on joins written
  have free : ∀ join ∈ joins.typed, ∀ predicate ∈ join.on, predicate.isSelectFree = true := by
    decide
  obtain ⟨-, counted, -⟩ := joins_bind_listed_scalars .standard {} free
  exact ⟨free, counted, by decide⟩

/-- The numbers of a list in a join are bound, and their literals stand nowhere. -/
theorem join_binds_list_of_numbers :
    let on := Predicates.ofList [.among "j.id" [.value (.int 1), .value (.int 2)]]
    let select := { Select.draft "t" .standard with joins := Joins.none.add ⟨.left, "j", on⟩ }
    (∀ predicate ∈ on, predicate.isSelectFree = true) ∧
      (Builder.render select).1 =
        ⟨"SELECT * FROM t\r\nLEFT JOIN j ON j.id IN (:p0,:p1)  ;",
          ⟨[(":p0", .int 1), (":p1", .int 2)], 2⟩⟩ := by
  intro on select
  exact ⟨by decide, by decide⟩

end SqlWright
