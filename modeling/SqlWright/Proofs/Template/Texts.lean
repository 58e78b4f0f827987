import Mathlib.Data.List.DropRight
import SqlWright.Proofs.Template.Outline
/-! Templates that are written one after the other, and templates that write nothing. Whether a
template writes nothing can be told without a table. -/
namespace SqlWright

theorem toList_dropTerminators (text : String) :
    (dropTerminators text).toList = text.toList.rdropWhile (· = ';') := by
  simp [dropTerminators, List.rdropWhile]

/-- Nothing is left of a text without its terminators if there is nothing else in it. -/
theorem dropTerminators_eq_empty_iff (text : String) :
    dropTerminators text = "" ↔ ∀ c ∈ text.toList, c = ';' := by
  rw [← String.toList_eq_nil_iff, toList_dropTerminators, List.rdropWhile_eq_nil_iff]
  simp

theorem dropTerminators_idem (text : String) :
    dropTerminators (dropTerminators text) = dropTerminators text := by
  apply String.toList_injective
  simp only [toList_dropTerminators]
  exact List.rdropWhile_idempotent _ _

namespace Template

/-- The texts of templates, each written over the table that the one before it left. -/
def emitEach : List Template → Table → List String
  | [], _ => []
  | first :: rest, table => (first.emit table).1 :: emitEach rest (first.emit table).2

theorem emit_text (literal : String) (table : Table) :
    (text literal).emit table = (literal, table) := rfl

theorem emit_append (first second : Template) (table : Table) :
    (first ++ second).emit table = ((first.emit table).1 ++ (second.emit (first.emit table).2).1,
      (second.emit (first.emit table).2).2) := rfl

/-- Templates that write alike may stand for one another in front of others and behind them. -/
theorem emit_append_congr {first second before behind : Template}
    (sameFront : first.emit = before.emit) (sameBack : second.emit = behind.emit) :
    (first ++ second).emit = (before ++ behind).emit := by
  funext table
  rw [emit_append, emit_append, sameFront, sameBack]

theorem joined_cons_of_ne_nil (separator : String) (first : Template) {rest : List Template}
    (more : rest ≠ []) :
    joined separator (first :: rest) = first ++ text separator ++ joined separator rest := by
  cases rest with
  | nil => exact absurd rfl more
  | cons second others => rfl

/-- Two runs of joined templates, joined, write what a single run of all of them writes. -/
theorem emit_joined_append (separator : String) {front back : List Template} (some : front ≠ [])
    (more : back ≠ []) :
    (joined separator (front ++ back)).emit =
      (joined separator front ++ text separator ++ joined separator back).emit := by
  induction front with
  | nil => exact absurd rfl some
  | cons first rest ih =>
    rw [List.cons_append, joined_cons_of_ne_nil separator first (by simp [more])]
    by_cases last : rest = []
    · subst last
      rfl
    · have regrouped : (first ++ text separator ++ joined separator (rest ++ back)).emit =
          (first ++ text separator ++
            (joined separator rest ++ text separator ++ joined separator back)).emit :=
        emit_append_congr rfl (ih last)
      rw [regrouped, joined_cons_of_ne_nil separator first last]
      funext table
      simp only [emit_append, String.append_assoc]

theorem emitEach_take (terms : List Template) (count : Nat) (table : Table) :
    emitEach (terms.take count) table = (emitEach terms table).take count := by
  induction terms generalizing count table with
  | nil => simp [emitEach]
  | cons first rest ih =>
    cases count with
    | zero => rfl
    | succ count => simp [emitEach, ih]

theorem length_emitEach (terms : List Template) (table : Table) :
    (emitEach terms table).length = terms.length := by
  induction terms generalizing table with
  | nil => rfl
  | cons first rest ih => simp [emitEach, ih]

/-- What all templates write, over any table, is what they write here. -/
theorem forall_mem_emitEach {good : String → Prop} {terms : List Template}
    (each : ∀ term ∈ terms, ∀ table, good (term.emit table).1) (table : Table) :
    ∀ text ∈ emitEach terms table, good text := by
  induction terms generalizing table with
  | nil => nofun
  | cons first rest ih =>
    obtain ⟨firstGood, restGood⟩ := List.forall_mem_cons.mp each
    exact List.forall_mem_cons.mpr ⟨firstGood table, ih restGood _⟩

/-- Each text is what its template writes over any table whose counter stands behind the scalars
of those before it. -/
theorem getElem?_emitEach {terms : List Template} {table reached : Table} {index : Nat}
    (inside : index < terms.length)
    (behind : reached.next = table.next + ((terms.take index).flatMap scalars).length) :
    (emitEach terms table)[index]? = some (terms[index].emit reached).1 := by
  induction terms generalizing table index with
  | nil => cases inside
  | cons first rest ih =>
    cases index with
    | zero =>
      have same : reached.next = table.next := by simpa using behind
      simp [emitEach, text_emit, same]
    | succ index =>
      have shifted : reached.next =
          (first.emit table).2.next + ((rest.take index).flatMap scalars).length := by
        rw [behind, next_emit, List.take_succ_cons, List.flatMap_cons, List.length_append,
          Nat.add_assoc]
      exact ih (Nat.lt_of_succ_lt_succ inside) shifted

/-- Joined templates write their texts with the separator between them. -/
theorem emit_joined (separator : String) (terms : List Template) (table : Table) :
    ((joined separator terms).emit table).1 = separator.intercalate (emitEach terms table) := by
  induction terms generalizing table with
  | nil => simp [joined, empty, emitEach, emit]
  | cons first rest ih =>
    cases rest with
    | nil => simp [joined, emitEach]
    | cons second others =>
      have written : ((joined separator (first :: second :: others)).emit table).1 =
          (first.emit table).1 ++ separator ++
            ((joined separator (second :: others)).emit (first.emit table).2).1 := rfl
      have nonempty : emitEach (second :: others) (first.emit table).2 ≠ [] := by simp [emitEach]
      rw [written, ih, ← String.intercalate_cons_of_ne_nil nonempty]
      rfl

theorem onlyTerminators_iff (template : Template) (table : Table) :
    template.onlyTerminators = true ↔ ∀ c ∈ (template.emit table).1.toList, c = ';' := by
  induction template generalizing table with
  | text literal => simp [onlyTerminators, emit]
  | scalar value => simp [onlyTerminators, emit, Table.allocate, Placeholder.toList_generated]
  | fragment source => simp [onlyTerminators, emit]
  | notice dropped => simp [onlyTerminators, emit]
  | append first second firstIh secondIh =>
    simp only [onlyTerminators, emit, Bool.and_eq_true, String.toList_append,
      List.forall_mem_append, firstIh table, secondIh (first.emit table).2]
  | nested body ih =>
    simp only [onlyTerminators, emit, ih table.fork, ← dropTerminators_eq_empty_iff,
      dropTerminators_idem]

theorem isBlank_iff (template : Template) (table : Table) :
    template.isBlank = true ↔ (template.emit table).1 = "" := by
  induction template generalizing table with
  | text literal => simp [isBlank, emit]
  | scalar value =>
    simp [isBlank, emit, Table.allocate, ← String.toList_inj, Placeholder.toList_generated]
  | fragment source => simp [isBlank, emit]
  | notice dropped => simp [isBlank, emit]
  | append first second firstIh secondIh =>
    simp only [isBlank, emit, Bool.and_eq_true, String.append_eq_empty_iff, firstIh table,
      secondIh (first.emit table).2]
  | nested body ih =>
    simp only [isBlank, emit, onlyTerminators_iff body table.fork, dropTerminators_eq_empty_iff]

end Template

end SqlWright
