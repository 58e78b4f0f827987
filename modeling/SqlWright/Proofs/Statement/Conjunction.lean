import SqlWright.Proofs.Condition.Reading
import SqlWright.Proofs.Statement.Conditions
/-! What a condition with several terms means in the statement that holds it. Its terms stand next
to each other as they are, with AND between them, so an OR in one of them reaches as far as the next
OR, across the terms around it. -/
namespace SqlWright

open Condition (Reading)

namespace Predicates

variable {escapes : Bool} {style : Style} {parameterized : Bool} {table : Table}
variable {predicates : Predicates} {first : Reading} {rest : List Reading}

theorem terms_take (count : Nat) :
    terms style parameterized (predicates.take count) table =
      (predicates.terms style parameterized table).take count := by
  simp only [terms, Predicate.templates_eq_map, List.map_take, Template.emitEach_take]

/-- The terms have readings, each of its own. -/
def ReadAs (escapes : Bool) (style : Style) (parameterized : Bool) (predicates : Predicates)
    (table : Table) (readings : List Reading) : Prop :=
  List.Forall₂ (fun term reading => Condition.read escapes term = some reading)
    (predicates.terms style parameterized table) readings

theorem ReadAs.take (each : predicates.ReadAs escapes style parameterized table (first :: rest))
    (count : Nat) :
    ReadAs escapes style parameterized (predicates.take (count + 1)) table
      (first :: rest.take count) := by
  unfold ReadAs
  rw [terms_take, ← List.take_succ_cons]
  exact List.forall₂_take (count + 1) each

end Predicates

namespace ConditionPlace

variable {escapes : Bool} {place : ConditionPlace} {table : Table} {predicates : Predicates}
variable {first : Reading} {rest : List Reading}

/-- What is written as the condition in this place has this reading. -/
def Reads (escapes : Bool) (place : ConditionPlace) (table : Table) (predicates : Predicates)
    (reading : Reading) : Prop :=
  ∃ condition, place.Holds table predicates condition ∧
    Condition.read escapes condition = some reading

/-- A condition whose terms can be read is written behind its keyword and reads as they do. -/
theorem reads_chained
    (each : predicates.ReadAs escapes place.style place.binds (place.reached table)
      (first :: rest)) :
    place.Reads escapes table predicates (first.chained rest) := by
  have reads : Condition.read escapes
      (predicates.body place.style place.binds (place.reached table)) =
        some (first.chained rest) :=
    Condition.read_intercalate_and each
  refine ⟨_, place.holds_body ?_, reads⟩
  intro emptied
  rw [emptied] at reads
  cases reads

end ConditionPlace

/-- A condition in a statement or behind ON reads as its terms one after the other, whatever stands
in them. A row that satisfies every term satisfies it. The converse holds for a single term and
where no term has an OR outside of parentheses; there the rows of a condition satisfy it with fewer
terms, too. -/
theorem condition_reads_as_chained_terms (escapes : Bool) (place : ConditionPlace) (table : Table)
    {predicates : Predicates} {first : Reading} {rest : List Reading}
    (each : predicates.ReadAs escapes place.style place.binds (place.reached table)
      (first :: rest)) :
    let whole := first.chained rest
    place.Reads escapes table predicates whole ∧
      (∀ row, (∀ reading ∈ first :: rest, reading.Satisfied row) → whole.Satisfied row) ∧
      ((rest = [] ∨ ∀ reading ∈ first :: rest, reading.isConjunction = true) →
        (∀ row, whole.Satisfied row ↔ ∀ reading ∈ first :: rest, reading.Satisfied row) ∧
        ∀ count, 0 < count → ∃ earlier,
          place.Reads escapes table (predicates.take count) earlier ∧
            ∀ row, whole.Satisfied row → earlier.Satisfied row) := by
  intro whole
  refine ⟨ConditionPlace.reads_chained each, ?_, fun unmixed => ?_⟩
  · intro row holds
    obtain ⟨firstHolds, restHold⟩ := List.forall_mem_cons.mp holds
    exact firstHolds.chained restHold
  have meaning (row : String → Prop) :
      whole.Satisfied row ↔ ∀ reading ∈ first :: rest, reading.Satisfied row := by
    rcases unmixed with rfl | conjunctions
    · simp [whole, Reading.chained]
    · obtain ⟨firstAlone, restAlone⟩ := List.forall_mem_cons.mp conjunctions
      exact Reading.satisfied_chained firstAlone restAlone
  refine ⟨meaning, ?_⟩
  intro count positive
  -- The readings of fewer terms are among those of all terms, and chain by themselves.
  obtain ⟨fewer, rfl⟩ := Nat.exists_eq_succ_of_ne_zero (Nat.ne_of_gt positive)
  refine ⟨first.chained (rest.take fewer), ConditionPlace.reads_chained (each.take fewer), ?_⟩
  intro row holds
  obtain ⟨firstHolds, restHold⟩ := List.forall_mem_cons.mp ((meaning row).mp holds)
  exact firstHolds.chained fun reading member => restHold reading (List.mem_of_mem_take member)

/-- An OR in parentheses is no OR of the condition. -/
theorem condition_reads_as_two_terms :
    let predicates := Predicates.ofList
      [.equal "id" (.value (.int 1)), .raw (.ofText "(b = 2 OR c = 3)")]
    let delete := { Delete.draft "t" .standard with filter := predicates }
    let place := ConditionPlace.deleteFilter delete
    let first := Reading.last "`id`=:p0"
    let second := Reading.last "(b = 2 OR c = 3)"
    predicates.ReadAs false place.style place.binds (place.reached {}) [first, second] ∧
      (Builder.render delete).1.sql =
        "DELETE FROM `t` \r\nWHERE `id`=:p0 AND (b = 2 OR c = 3);" ∧
      place.Reads false {} predicates (.link "`id`=:p0" .and second) ∧
      ∀ row, (first.chained [second]).Satisfied row ↔
        ∀ reading ∈ [first, second], reading.Satisfied row := by
  intro predicates delete place first second
  have each : predicates.ReadAs false .standard true {} [first, second] :=
    .cons rfl (.cons rfl .nil)
  have conjunctions : ∀ reading ∈ [first, second], reading.isConjunction = true := by decide
  obtain ⟨reads, -, narrowing⟩ := condition_reads_as_chained_terms false place {} each
  exact ⟨each, by decide, reads, (narrowing (.inr conjunctions)).1⟩

/-- A row for which only the first half of an OR is true satisfies the whole condition of a delete,
and not the term after it. -/
theorem satisfied_without_last_term :
    let predicates := Predicates.ofList
      [.raw (.ofText "a = 1 OR b = 2"), .raw (.ofText "c = 3")]
    let delete := { Delete.draft "t" .standard with filter := predicates }
    let place := ConditionPlace.deleteFilter delete
    let row := fun factor => factor = "a = 1"
    (Builder.render delete).1.sql =
        "DELETE FROM `t` \r\nWHERE a = 1 OR b = 2 AND c = 3;" ∧
      ∃ first second whole,
        predicates.ReadAs false place.style place.binds (place.reached {}) [first, second] ∧
          place.Reads false {} predicates whole ∧
          whole.Satisfied row ∧ ¬ ∀ reading ∈ [first, second], reading.Satisfied row := by
  intro predicates delete place row
  have each : predicates.ReadAs false .standard true {}
      [.link "a = 1" .or (.last "b = 2"), .last "c = 3"] := .cons rfl (.cons rfl .nil)
  refine ⟨by decide, _, _, _, each, ConditionPlace.reads_chained each, ?_, ?_⟩
  · exact ⟨["a = 1"], by decide, by simp [row]⟩
  · intro holds
    obtain ⟨factors, member, isTrue⟩ := holds _ (List.mem_cons_of_mem _ (List.mem_singleton_self _))
    obtain rfl := List.mem_singleton.mp member
    exact absurd (isTrue _ (List.mem_singleton_self _)) (by decide)

end SqlWright
