import SqlWright.Proofs.Template.Bindings
import Mathlib.Data.List.Forall2
/-! Templates and tables with their bound scalars blanked out. Writing an erased template is
erasing what was written, so scalars reach neither the text nor the names. -/
namespace SqlWright

/-- The entry with its value blanked out, if its name has the generated shape. -/
def Placeholder.erasedEntry (entry : String × Value) : String × Value :=
  if isGenerated entry.1 then (entry.1, .null) else entry

theorem Placeholder.name_erasedEntry (entry : String × Value) :
    (erasedEntry entry).1 = entry.1 := by
  unfold erasedEntry
  split <;> rfl

namespace Table

def erased (table : Table) : Table :=
  { table with entries := table.entries.map Placeholder.erasedEntry }

theorem erased_set (table : Table) (name : String) (value : Value) :
    (table.set name value).erased =
      table.erased.set name (Placeholder.erasedEntry (name, value)).2 := by
  have spelled : Placeholder.erasedEntry (name, value) =
      (name, (Placeholder.erasedEntry (name, value)).2) :=
    Prod.ext (Placeholder.name_erasedEntry (name, value)) rfl
  simp only [erased, set]
  rw [Keyed.map_putAt, ← spelled]
  intro entry
  simp [Placeholder.name_erasedEntry]

theorem erased_setAll (table : Table) (entries : List (String × Value)) :
    (table.setAll entries).erased =
      table.erased.setAll (entries.map Placeholder.erasedEntry) := by
  induction entries generalizing table with
  | nil => rfl
  | cons first rest ih =>
    have step := ih (table.set first.1 first.2)
    rw [erased_set] at step
    simpa [setAll, Placeholder.name_erasedEntry] using step

theorem erased_allocate (table : Table) (value : Value) :
    (table.allocate value).2.erased = (table.erased.allocate .null).2 := by
  simp [allocate, erased, Placeholder.erasedEntry, Placeholder.isGenerated_generated]

/-- Two tables of one erasure hold the same names in the same order, and other values under
generated names at most. -/
theorem agree_of_erased_eq {first second : Table} (same : first.erased = second.erased) :
    List.Forall₂ (fun entry other : String × Value => entry.1 = other.1 ∧
      (Placeholder.isGenerated entry.1 = false → entry.2 = other.2))
      first.entries second.entries := by
  have erasedEntries : first.entries.map Placeholder.erasedEntry =
      second.entries.map Placeholder.erasedEntry := congrArg Table.entries same
  rw [← List.forall₂_eq_eq_eq, List.forall₂_map_left_iff, List.forall₂_map_right_iff]
    at erasedEntries
  refine erasedEntries.imp ?_
  intro entry other sameEntry
  have sameName : entry.1 = other.1 := by
    rw [← Placeholder.name_erasedEntry entry, sameEntry, Placeholder.name_erasedEntry]
  refine ⟨sameName, ?_⟩
  intro spared
  have otherSpared : Placeholder.isGenerated other.1 = false := sameName ▸ spared
  simp only [Placeholder.erasedEntry, spared, otherSpared, Bool.false_eq_true, ↓reduceIte]
    at sameEntry
  exact congrArg Prod.snd sameEntry

theorem names_erased (table : Table) : table.erased.names = table.names := by
  simp [erased, names, Placeholder.name_erasedEntry]

end Table

namespace Template

def erased : Template → Template
  | .text literal => .text literal
  | .scalar _ => .scalar .null
  | .fragment source => .fragment source
  | .notice dropped => .notice dropped
  | .append first second => .append first.erased second.erased
  | .nested body => .nested body.erased

/-- Writing an erased template writes the same text and the erased table. -/
theorem emit_erased (template : Template) (table : Table) :
    template.erased.emit table.erased =
      ((template.emit table).1, (template.emit table).2.erased) := by
  induction template generalizing table with
  | text literal => rfl
  | scalar value => exact Prod.ext rfl (Table.erased_allocate table value).symm
  | fragment source =>
    have kept : source.params.entries.map Placeholder.erasedEntry = source.params.entries := by
      refine (List.map_congr_left ?_).trans (List.map_id _)
      intro entry member
      have spared := Placeholder.isGenerated_of_isCallerName (source.callerNamed entry member)
      simp [Placeholder.erasedEntry, spared]
    have merged := Table.erased_setAll table source.params.entries
    rw [kept] at merged
    exact Prod.ext rfl merged.symm
  | notice dropped => rfl
  | append first second firstIh secondIh =>
    simp only [erased, emit, firstIh, secondIh]
  | nested body ih =>
    have forked : body.erased.emit table.erased.fork =
        ((body.emit table.fork).1, (body.emit table.fork).2.erased) := ih table.fork
    have merged := Table.erased_setAll
      { table with next := max table.next (body.emit table.fork).2.next }
      (body.emit table.fork).2.entries
    simp only [erased, emit, forked]
    exact Prod.ext rfl merged.symm

theorem build_erased (template : Template) :
    template.erased.build.sql = template.build.sql ∧
      template.erased.build.params = template.build.params.erased := by
  have written : template.erased.emit {} = ((template.emit {}).1, (template.emit {}).2.erased) :=
    template.emit_erased {}
  simp [build, written]

end Template

end SqlWright
