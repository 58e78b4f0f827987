import SqlWright.Proofs.Statement.Scalars
import SqlWright.Proofs.Template.Outline
/-! A select over any table: its text is one outline, numbered on from the table's counter.
Inside another statement it is the stand-alone text without its terminators, renumbered. -/
namespace SqlWright

/-- The style a select stands alone with is the only part that its own style plays. -/
theorem Select.build_restyle (select : Select) (style : Style) :
    Builder.build { select with style := style } = (select.template style).build := by
  obtain ⟨⟩ := select
  simp [Builder.build, Builder.template, Select.template]

/-- A select in a style has one outline, whose holes are the select's scalars. Over any
table the holes are numbered on from the counter and bound to their scalars, both by the
select as it stands and by the select merged into another statement; only the terminators at
the end of the text tell the two apart. -/
theorem Select.exists_outline (select : Select) (style : Style) :
    ∃ outline : Outline, outline.values = select.scalars ∧
      dropTerminators (Builder.build { select with style := style }).sql =
        outline.trimmed.text 0 ∧
      ∀ table : Table,
        let written := (select.template style).emit table
        let merged := (Template.nested (select.template style)).emit table
        written.1 = outline.text table.next ∧
        merged.1 = outline.trimmed.text table.next ∧
        written.2.next = table.next + outline.values.length ∧
        merged.2.next = table.next + outline.values.length ∧
        Placeholder.numbered table.next outline.values ⊆ written.2.entries ∧
        Placeholder.numbered table.next outline.values ⊆ merged.2.entries ∧
        (table.Sound → merged.2 = written.2 ∧
          ∀ entry ∈ Placeholder.numbered table.next outline.values,
            written.2.get? entry.1 = some entry.2) := by
  have values := (select.template style).values_outline
  refine ⟨(select.template style).outline, ?_, ?_, ?_⟩
  · rw [values, Select.scalars_template]
  · rw [Select.build_restyle, ← Outline.dropTerminators_text, Template.sql_build]
  · intro table written merged
    rw [values]
    have bound := Template.numbered_subset_emit (select.template style) table
    refine ⟨Template.text_emit _ table, Template.text_emit (.nested _) table,
      Template.next_emit _ table, Template.next_emit (.nested _) table, bound,
      Template.numbered_subset_emit (.nested _) table, ?_⟩
    intro sound
    have direct : written.2 = table.bindAll (select.template style).bindings :=
      Template.emit_table sound.fresh
    have nested : merged.2 = table.bindAll (select.template style).bindings :=
      Template.emit_table sound.fresh
    refine ⟨nested.trans direct.symm, ?_⟩
    rintro ⟨name, value⟩ member
    obtain ⟨index, _, _, rfl⟩ := Placeholder.mem_numbered member
    have stillSound : written.2.Sound := by
      rw [direct]
      exact sound.bindAll (Template.callerNamed_bindings _)
    have held : (":" ++ Placeholder.serial index, value) ∈ written.2.entries := by
      rw [← Placeholder.generated_eq]
      exact bound member
    exact stillSound.get?_of_mem (Placeholder.bare_generated index) held

/-- Two scalars over a table that has counted to nine. -/
theorem Select.exists_outline_from_nine :
    let select : Select := { Select.draft "a" .standard with
      filter := [.equal "x" (.value (.int 1)), .equal "y" (.value (.int 2))] }
    let written := (select.template .standard).emit ⟨[], 9⟩
    Table.Sound ⟨[], 9⟩ ∧ written.2.get? ":p9" = some (.int 1) ∧
      written.2.get? ":p10" = some (.int 2) := by
  intro select written
  obtain ⟨outline, values, _, spec⟩ := Select.exists_outline select .standard
  have sound : Table.Sound ⟨[], 9⟩ := Table.sound_fork ⟨[], 9⟩
  obtain ⟨_, _, _, _, _, _, bound⟩ := spec ⟨[], 9⟩
  have lookUp := (bound sound).2
  rw [values] at lookUp
  exact ⟨sound, lookUp (":p9", .int 1) (by decide), lookUp (":p10", .int 2) (by decide)⟩

end SqlWright
