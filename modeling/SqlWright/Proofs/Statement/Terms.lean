import SqlWright.Proofs.Statement.Conditions
import SqlWright.Proofs.Text.Splitting
/-! The terms of a condition, counted in its text. Where each of them tests one column against
scalars, the text falls into as many parts as there are terms. -/
namespace SqlWright

/-- An equality, a null test or a membership test over scalars. The name of its column has no
space, so that it does not bring an operator of its own. -/
inductive Predicate.IsPlain : Predicate → Prop where
  | equal {column : String} (unspaced : hasSpace column = false) (value : Value) :
    IsPlain (.equal column (.value value))
  | isNull {column : String} (unspaced : hasSpace column = false) : IsPlain (.isNull column)
  | among {column : String} (unspaced : hasSpace column = false) (values : List Value) :
    IsPlain (.among column (values.map .value))

theorem hasSpace_eq_false_iff (text : String) : hasSpace text = false ↔ ' ' ∉ text.toList := by
  rw [hasSpace, List.any_eq_false]
  simpa using List.forall_mem_ne'

/-- Quoting brings no space into a name. -/
theorem Style.unspaced_quoted {style : Style} (quote : style.quote ≠ ' ') {column : String}
    (unspaced : hasSpace column = false) : ' ' ∉ (style.quoted column).toList := by
  rw [hasSpace_eq_false_iff] at unspaced
  unfold Style.quoted quoteIdentifier
  split
  · exact unspaced
  · simp [unspaced, quote.symm]

theorem Placeholder.unspaced_generated (index : Nat) : ' ' ∉ (generated index).toList := by
  intro member
  have inDigits : ' ' ∈ (toString index).toList := by
    simpa [generated] using member
  exact ne_of_mem_toString inDigits rfl rfl

/-- Scalars in a list are names with commas between them. -/
theorem Template.unspaced_joined_scalars (values : List Value) (table : Table) :
    ' ' ∉ ((joined "," (values.map scalar)).emit table).1.toList := by
  induction values generalizing table with
  | nil => simp [joined, empty, emit]
  | cons first rest ih =>
    by_cases last : rest = []
    · subst last
      exact Placeholder.unspaced_generated table.next
    · have name : ' ' ∉ ((scalar first).emit table).1.toList :=
        Placeholder.unspaced_generated table.next
      have others := ih ((scalar first).emit table).2
      rw [List.map_cons, joined_cons_of_ne_nil "," _ (by simpa using last)]
      simp only [emit_append, emit_text, String.toList_append, List.mem_append, not_or]
      exact ⟨⟨name, by decide⟩, others⟩

namespace Predicate

variable {style : Style} {column : String}

theorem template_equal_scalar (style : Style) (column : String) (value : Value) :
    template style true (.equal column (.value value)) =
      if value = .null then nullTest style column
      else comparison style column (.scalar value) := by
  cases value <;> rfl

theorem emit_among_scalars (style : Style) (column : String) (first : Value) (rest : List Value)
    (table : Table) :
    ((template style true (.among column ((first :: rest).map .value))).emit table).1 =
      style.quoted column ++ " IN (" ++
        ((Template.joined "," ((first :: rest).map .scalar)).emit table).1 ++ ")" := by
  have scalars : Operand.templates style ((first :: rest).map .value) =
      (first :: rest).map .scalar := by
    rw [Operand.templates_eq_map, List.map_map]
    rfl
  have noSelect : Operand.firstSelect style ((first :: rest).map .value) = none :=
    Operand.firstSelect_eq_none (by simp [Operand.isSelect])
  rw [List.map_cons] at scalars noSelect
  rw [List.map_cons, template, scalars, noSelect, members, Template.parenthesized]
  apply String.toList_injective
  simp [Template.emit_append, Template.emit_text]

theorem avoids_nullTest (quote : style.quote ≠ ' ') (unspaced : hasSpace column = false)
    (table : Table) : Avoids " AND ".toList ((nullTest style column).emit table).1.toList := by
  rw [nullTest, if_neg (by simp [unspaced]), Template.emit_text, String.toList_append]
  exact (Avoids.of_not_mem (style.unspaced_quoted quote unspaced)).append (by decide)

theorem avoids_comparison (quote : style.quote ≠ ' ') (unspaced : hasSpace column = false)
    (value : Value) (table : Table) :
    Avoids " AND ".toList ((comparison style column (.scalar value)).emit table).1.toList := by
  have name : ' ' ∉ ((Template.scalar value).emit table).1.toList :=
    Placeholder.unspaced_generated table.next
  rw [comparison, if_neg (by simp [unspaced])]
  simp only [Template.emit_append, Template.emit_text, String.toList_append]
  exact ((Avoids.of_not_mem (style.unspaced_quoted quote unspaced)).append (by decide)).append
    (Avoids.of_not_mem name)

/-- A space in a term is that of its operator, which is none of those in the separator. -/
theorem IsPlain.avoids_and (quote : style.quote ≠ ' ') {predicate : Predicate}
    (plain : predicate.IsPlain) (table : Table) :
    Avoids " AND ".toList ((predicate.template style true).emit table).1.toList := by
  cases plain with
  | equal unspaced value =>
    rw [template_equal_scalar]
    split
    · exact avoids_nullTest quote unspaced table
    · exact avoids_comparison quote unspaced value table
  | isNull unspaced => exact avoids_nullTest quote unspaced table
  | among unspaced values =>
    cases values with
    | nil =>
      have noSpace : ' ' ∉ "1=0".toList := by decide
      exact Avoids.of_not_mem noSpace
    | cons first rest =>
      have column := style.unspaced_quoted quote unspaced
      have names := Template.unspaced_joined_scalars (first :: rest) table
      rw [emit_among_scalars]
      simp only [String.toList_append]
      exact (((Avoids.of_not_mem column).append (by decide)).append
        (Avoids.of_not_mem names)).append (by decide)

end Predicate

namespace Predicates

variable {style : Style} {predicates : Predicates}

/-- Cutting the text of a condition at its ANDs gives its terms. -/
theorem cutAt_body (quote : style.quote ≠ ' ')
    (plain : ∀ predicate ∈ predicates, predicate.IsPlain) (table : Table) :
    cutAt " AND " (predicates.body style true table) =
      if predicates = [] then [""] else predicates.terms style true table := by
  have avoid : ∀ term ∈ predicates.terms style true table, Avoids " AND ".toList term.toList := by
    unfold terms
    rw [Predicate.templates_eq_map]
    refine Template.forall_mem_emitEach (fun template member table => ?_) table
    obtain ⟨predicate, own, rfl⟩ := List.mem_map.mp member
    exact (plain predicate own).avoids_and quote table
  rw [body, cutAt_intercalate (by decide) avoid]
  cases predicates <;> rfl

theorem getElem?_terms {table reached : Table} {index : Nat} (inside : index < predicates.length)
    (behind : reached.next =
      table.next + (Predicate.allScalars true (predicates.take index)).length) :
    (predicates.terms style true table)[index]? =
      some ((predicates[index].template style true).emit reached).1 := by
  have insideToo : index < (predicates.map (Predicate.template style true)).length := by
    simpa using inside
  rw [← Predicate.scalars_templates style, Predicate.templates_eq_map, List.map_take] at behind
  rw [terms, Predicate.templates_eq_map, Template.getElem?_emitEach insideToo behind,
    List.getElem_map]

end Predicates

/-- The text of a condition of plain terms falls into as many parts between its ANDs as there are
terms. Each part is what its term writes by itself where the counter stands behind the scalars of
the terms before it. It is this text that stands behind WHERE or HAVING where the counter has come
as far. A condition without terms has an empty text, which is one part. -/
theorem plain_condition_falls_into_terms {style : Style} (quote : style.quote ≠ ' ')
    {predicates : Predicates} (plain : ∀ predicate ∈ predicates, predicate.IsPlain)
    (table : Table) :
    let clause := conditionClause "" (Predicate.templates style true predicates) ""
    let condition := (clause.emit table).1
    let parts := cutAt " AND " condition
    (predicates = [] → parts = [""]) ∧
      (predicates ≠ [] → parts.length = predicates.length ∧
        ∀ (place : ConditionPlace) (start : Table), place.style = style → place.binds = true →
          (place.reached start).next = table.next → place.Holds start predicates condition) ∧
      ∀ (index : Nat) (inside : index < predicates.length) (reached : Table),
        reached.next =
            table.next + (Predicate.allScalars true (predicates.take index)).length →
          parts[index]? = some ((predicates[index].template style true).emit reached).1 := by
  intro clause condition parts
  have written : condition = predicates.body style true table := by
    cases predicates with
    | nil => rfl
    | cons first rest => simp [condition, clause, Predicates.emit_conditionClause]
  have cut : parts = if predicates = [] then [""] else predicates.terms style true table := by
    rw [← Predicates.cutAt_body quote plain, ← written]
  refine ⟨?_, fun some => ⟨?_, ?_⟩, ?_⟩
  · intro none
    rw [cut, if_pos none]
  · rw [cut, if_neg some, Predicates.terms, Template.length_emitEach, Predicate.templates_eq_map,
      List.length_map]
  · rintro place start rfl binds same
    rw [written, ← Predicates.body_congr same]
    exact ConditionPlace.holds_body_of_ne_nil binds some
  · intro index inside reached behind
    have some : predicates ≠ [] := List.ne_nil_of_length_pos (Nat.zero_lt_of_lt inside)
    rw [cut, if_neg some, Predicates.getElem?_terms inside behind]

/-- Columns whose names look like separators, next to a list and a null. -/
theorem plain_condition_falls_into_terms_despite_names :
    let style := { Style.standard with quote := 'A' }
    let predicates : Predicates := [.equal "AND" (.value (.int 1)), .isNull "AND",
      .among "(AND" ([.int 2, .text " AND "].map .value), .among "x" [], .equal "y" (.value .null)]
    let clause := conditionClause "" (Predicate.templates style true predicates) ""
    let condition := (clause.emit {}).1
    let parts := cutAt " AND " condition
    let delete := { Delete.draft "t" style with filter := predicates }
    style.quote ≠ ' ' ∧ (∀ predicate ∈ predicates, predicate.IsPlain) ∧
      condition = "AND=:p0 AND AND IS NULL AND (AND IN (:p1,:p2) AND 1=0 AND AyA IS NULL" ∧
      parts.length = 5 ∧ parts[2]? = some "(AND IN (:p1,:p2)" ∧
      (ConditionPlace.deleteFilter delete).Holds {} predicates condition ∧
      (Builder.render delete).1.sql = "DELETE FROM AtA \r\nWHERE " ++ condition ++ ";" := by
  intro style predicates clause condition parts delete
  have quote : style.quote ≠ ' ' := by decide
  have plain : ∀ predicate ∈ predicates, predicate.IsPlain := by
    simp only [predicates, List.forall_mem_cons]
    exact ⟨.equal rfl _, .isNull rfl, .among rfl _, .among rfl [], .equal rfl _, nofun⟩
  obtain ⟨-, whole, each⟩ := plain_condition_falls_into_terms quote plain {}
  obtain ⟨count, stands⟩ := whole (List.cons_ne_nil _ _)
  exact ⟨quote, plain, by decide, count, each 2 (by decide) { next := 1 } (by decide),
    stands (.deleteFilter delete) {} rfl rfl rfl, by decide⟩

/-- A condition without terms leaves one part, though it has none. -/
theorem one_part_of_no_terms :
    let predicates : Predicates := []
    let clause := conditionClause "" (Predicate.templates .standard true predicates) ""
    Style.standard.quote ≠ ' ' ∧ (∀ predicate ∈ predicates, predicate.IsPlain) ∧
      (cutAt " AND " (clause.emit {}).1).length ≠ predicates.length := by
  intro predicates clause
  have plain : ∀ predicate ∈ predicates, predicate.IsPlain := List.forall_mem_nil _
  have quote : Style.standard.quote ≠ ' ' := by decide
  refine ⟨quote, plain, ?_⟩
  change (cutAt " AND " (Predicates.body .standard true predicates {})).length ≠ 0
  rw [Predicates.cutAt_body quote plain]
  decide

end SqlWright
