import SqlWright.Proofs.Placeholder.Naming
import SqlWright.Proofs.Postgres.Lexemes
import Mathlib.Data.List.Forall2
import Mathlib.Data.List.Nodup
/-! What the rewriting of placeholders gives: every occurrence of a name becomes the position
of that name among the distinct ones, in the order in which they first occur. -/
namespace SqlWright.Postgres

/-- A piece as it is rewritten when these names are numbered from one. -/
def Lexeme.renumbered (names : List String) : Lexeme → List Char
  | .placeholder name => '$' :: Nat.toDigits 10 (names.idxOf (String.ofList name) + 1)
  | lexeme => lexeme.text

section Distinct

variable {Name : Type} [DecidableEq Name] {names : List Name}

private theorem eraseDups_concat (names : List Name) (last : Name) :
    (names ++ [last]).eraseDups =
      if last ∈ names then names.eraseDups else names.eraseDups ++ [last] := by
  rw [List.eraseDups_append]
  by_cases known : last ∈ names
  · simp [List.removeAll, known]
  · simp [List.removeAll, known, List.eraseDups_cons]

theorem nodup_eraseDups (names : List Name) : names.eraseDups.Nodup := by
  induction names using List.reverseRecOn with
  | nil => exact List.nodup_nil
  | append_singleton front last ih =>
    rw [eraseDups_concat]
    split
    · exact ih
    · next unknown =>
      refine List.nodup_append.mpr ⟨ih, by simp, ?_⟩
      rintro name member other inLast rfl
      exact unknown (List.mem_singleton.mp inLast ▸ List.mem_eraseDups.mp member)

theorem eraseDups_of_nodup (distinct : names.Nodup) : names.eraseDups = names := by
  induction names using List.reverseRecOn with
  | nil => rfl
  | append_singleton front last ih =>
    have unknown : last ∉ front := fun member =>
      (List.nodup_append.mp distinct).2.2 last member last (by simp) rfl
    rw [eraseDups_concat, if_neg unknown, ih (List.nodup_append.mp distinct).1]

end Distinct

section Positions

variable {bound : List (String × Value)} {name : String}

private theorem idxOf_of_findIdx?_eq_some {position : Nat}
    (found : (bound.findIdx? fun entry => entry.1 = name) = some position) :
    name ∈ bound.map (·.1) ∧ (bound.map (·.1)).idxOf name = position := by
  obtain ⟨inside, first⟩ := List.findIdx?_eq_some_iff_findIdx_eq.mp found
  have same : (bound.map (·.1)).idxOf name = position := by
    rw [List.idxOf, List.findIdx_map, ← first]
    rfl
  refine ⟨?_, same⟩
  rw [← List.idxOf_lt_length_iff, same, List.length_map]
  exact inside

private theorem idxOf_of_findIdx?_eq_none
    (missing : (bound.findIdx? fun entry => entry.1 = name) = none) :
    name ∉ bound.map (·.1) := by
  intro member
  obtain ⟨entry, inBound, same⟩ := List.mem_map.mp member
  have different := List.findIdx?_eq_none_iff.mp missing entry inBound
  simp [same] at different

end Positions

variable {table : Table}

/-- Numbering keeps the names that it starts with and adds the others in the order of first
use, each with its value in the table. -/
theorem exists_number_eq {lexemes : List Lexeme} (bound : List (String × Value))
    (held : ∀ name ∈ lexemes.filterMap Lexeme.name?, (table.get? name).isSome) :
    ∃ added : List (String × Value),
      number table bound lexemes = .ok
        (lexemes.flatMap (Lexeme.renumbered ((bound ++ added).map (·.1))), bound ++ added) ∧
      added.map (·.1) = ((lexemes.filterMap Lexeme.name?).filter
        fun name => name ∉ bound.map (·.1)).eraseDups ∧
      ∀ entry ∈ added, table.get? entry.1 = some entry.2 := by
  induction lexemes generalizing bound with
  | nil => exact ⟨[], by simp [number], rfl, by simp⟩
  | cons lexeme rest ih =>
    cases lexeme with
    | placeholder spelled =>
      have firstName : (Lexeme.placeholder spelled :: rest).filterMap Lexeme.name? =
          String.ofList spelled :: rest.filterMap Lexeme.name? := rfl
      have restHeld : ∀ name ∈ rest.filterMap Lexeme.name?, (table.get? name).isSome :=
        fun name member => held name (List.mem_cons_of_mem _ member)
      cases found : bound.findIdx? fun entry => entry.1 = String.ofList spelled with
      | some position =>
        obtain ⟨member, same⟩ := idxOf_of_findIdx?_eq_some found
        obtain ⟨added, numbered, names, values⟩ := ih bound restHeld
        have index : ((bound ++ added).map (·.1)).idxOf (String.ofList spelled) = position := by
          rw [List.map_append, List.idxOf_append_of_mem member, same]
        refine ⟨added, ?_, ?_, values⟩
        · simp only [number, found, pure_bind, numbered, List.flatMap_cons, Lexeme.renumbered,
            index]
          rfl
        · rw [names, firstName, List.filter_cons_of_neg (by simpa using member)]
      | none =>
        have absent := idxOf_of_findIdx?_eq_none found
        obtain ⟨value, isValue⟩ := Option.isSome_iff_exists.mp
          (held (String.ofList spelled) (List.mem_cons_self ..))
        obtain ⟨added, numbered, names, values⟩ :=
          ih (bound ++ [(String.ofList spelled, value)]) restHeld
        rw [List.append_assoc, List.singleton_append] at numbered
        have index : ((bound ++ (String.ofList spelled, value) :: added).map (·.1)).idxOf
            (String.ofList spelled) = bound.length := by
          rw [List.map_append, List.idxOf_append_of_notMem absent]
          simp
        refine ⟨(String.ofList spelled, value) :: added, ?_, ?_, ?_⟩
        · simp only [number, found, isValue, pure_bind, numbered, List.flatMap_cons,
            Lexeme.renumbered, index]
          rfl
        · rw [firstName, List.filter_cons_of_pos (by simpa using absent), List.eraseDups_cons,
            List.filter_filter, List.map_cons, names]
          congr 2
          apply List.filter_congr
          intro name _
          rw [Bool.eq_iff_iff, List.map_append]
          simp [and_comm]
        · intro entry member
          rcases List.mem_cons.mp member with rfl | inAdded
          · exact isValue
          · exact values entry inAdded
    | _ =>
      obtain ⟨added, numbered, names, values⟩ := ih bound held
      refine ⟨added, ?_, names, values⟩
      simp only [number, numbered, List.flatMap_cons, Lexeme.renumbered]
      rfl

/-- Numbering stops at the first name without a value, if the names that it starts with all
have one. -/
private theorem number_eq_error {lexemes : List Lexeme} {bound : List (String × Value)}
    {missing : String} (held : ∀ entry ∈ bound, (table.get? entry.1).isSome)
    (first : (lexemes.filterMap Lexeme.name?).find? (fun name => (table.get? name).isNone) =
      some missing) :
    number table bound lexemes = .error (.usage (.unboundPlaceholder missing)) := by
  induction lexemes generalizing bound with
  | nil => cases first
  | cons lexeme rest ih =>
    cases lexeme with
    | placeholder spelled =>
      have firstName : (Lexeme.placeholder spelled :: rest).filterMap Lexeme.name? =
          String.ofList spelled :: rest.filterMap Lexeme.name? := rfl
      rw [firstName, List.find?_cons] at first
      cases found : bound.findIdx? fun entry => entry.1 = String.ofList spelled with
      | some position =>
        obtain ⟨entry, member, same⟩ := List.mem_map.mp (idxOf_of_findIdx?_eq_some found).1
        have hasValue : (table.get? (String.ofList spelled)).isNone = false := by
          rw [← same, ← Option.not_isSome, held entry member]
          rfl
        rw [hasValue] at first
        simp only [number, found, pure_bind, ih held first]
        rfl
      | none =>
        cases isValue : table.get? (String.ofList spelled) with
        | none =>
          rw [isValue] at first
          cases first
          simp only [number, found, isValue]
          rfl
        | some value =>
          rw [isValue] at first
          have extended : ∀ entry ∈ bound ++ [(String.ofList spelled, value)],
              (table.get? entry.1).isSome := by
            intro entry member
            rcases List.mem_append.mp member with old | new
            · exact held entry old
            · rw [List.mem_singleton.mp new, isValue]
              rfl
          simp only [number, found, isValue, pure_bind, ih extended first]
          rfl
    | _ =>
      simp only [number, ih held first]
      rfl

/-- The first placeholder without a value is the error. -/
theorem toPositional_eq_error {sql missing : String}
    (first : (placeholderNames sql).find? (fun name => (table.get? name).isNone) = some missing) :
    toPositional sql table = .error (.usage (.unboundPlaceholder missing)) := by
  have stopped : number table [] (scan sql.toList) =
      .error (.usage (.unboundPlaceholder missing)) :=
    number_eq_error (fun _ inNone => nomatch inNone) first
  simp only [toPositional, stopped]
  rfl

/-- Where every placeholder has a value, the text changes in its placeholders alone, and the
values are those of the distinct names in the order of first use. -/
theorem exists_toPositional_eq {sql : String}
    (held : ∀ name ∈ placeholderNames sql, (table.get? name).isSome) :
    ∃ values : List Value,
      toPositional sql table = .ok (String.ofList ((scan sql.toList).flatMap
        (Lexeme.renumbered (placeholderNames sql).eraseDups)), values) ∧
      List.Forall₂ (fun name value => table.get? name = some value)
        (placeholderNames sql).eraseDups values := by
  obtain ⟨added, numbered, names, values⟩ := exists_number_eq [] held
  have distinct : added.map (·.1) = (placeholderNames sql).eraseDups := by
    simpa [placeholderNames] using names
  refine ⟨added.map (·.2), ?_, ?_⟩
  · rw [List.nil_append, distinct] at numbered
    simp only [toPositional, numbered]
    rfl
  · rw [← distinct, List.forall₂_map_left_iff, List.forall₂_map_right_iff]
    exact List.forall₂_same.mpr values

theorem nodup_serials (count : Nat) : ((List.range count).map Placeholder.serial).Nodup :=
  List.nodup_range.map fun _ _ => Placeholder.serial_inj.mp

/-- Among the generated names in order each placeholder gets the number after its index. -/
theorem renumbered_serial {count index : Nat} (below : index < count) :
    Lexeme.renumbered ((List.range count).map Placeholder.serial)
      (.placeholder (Placeholder.serial index).toList) = '$' :: Nat.toDigits 10 (index + 1) := by
  have position := (nodup_serials count).idxOf_getElem index (by simpa using below)
  simp only [List.getElem_map, List.getElem_range] at position
  rw [Lexeme.renumbered, String.ofList_toList, position]

end SqlWright.Postgres
