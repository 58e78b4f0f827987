import SqlWright.Template
import SqlWright.Proofs.Placeholder.Binding
/-! The bindings that writing a template makes, in the order of its text. A nested statement
binds like any other part: writing it in a fork that is absorbed changes nothing. -/
namespace SqlWright.Template

def bindings : Template → List Binding
  | .scalar value => [.scalar value]
  | .fragment source => source.params.entries.map fun entry => .named entry.1 entry.2
  | .append first second => first.bindings ++ second.bindings
  | .nested body => body.bindings
  | .text _ | .notice _ => []

/-- The scalars among the bindings. -/
def scalars : Template → List Value
  | .scalar value => [value]
  | .append first second => first.scalars ++ second.scalars
  | .nested body => body.scalars
  | .text _ | .fragment _ | .notice _ => []

theorem filterMap_bindings (template : Template) :
    template.bindings.filterMap Binding.scalar? = template.scalars := by
  induction template with
  | text literal => rfl
  | scalar value => rfl
  | fragment source => simp [bindings, scalars, List.filterMap_map, Binding.scalar?]
  | notice dropped => rfl
  | append first second firstIh secondIh => simp [bindings, scalars, firstIh, secondIh]
  | nested body ih => exact ih

theorem callerNamed_bindings (template : Template) :
    ∀ binding ∈ template.bindings, binding.CallerNamed := by
  induction template with
  | text literal => intro binding member; cases member
  | scalar value =>
    intro binding member
    rw [List.mem_singleton.mp member]
    trivial
  | fragment source =>
    intro binding member
    obtain ⟨entry, inParams, rfl⟩ := List.mem_map.mp member
    exact source.callerNamed entry inParams
  | notice dropped => intro binding member; cases member
  | append first second firstIh secondIh =>
    intro binding member
    exact (List.mem_append.mp member).elim (firstIh binding) (secondIh binding)
  | nested body ih => exact ih

private theorem setAll_eq_bindAll (table : Table) (entries : List (String × Value)) :
    table.setAll entries =
      table.bindAll (entries.map fun entry => .named entry.1 entry.2) := by
  induction entries generalizing table with
  | nil => rfl
  | cons first rest ih => exact ih (table.set first.1 first.2)

/-- Writing a template binds its bindings one after the other, whatever is nested in it. -/
theorem emit_table {template : Template} {table : Table} (fresh : table.Fresh) :
    (template.emit table).2 = table.bindAll template.bindings := by
  induction template generalizing table with
  | text literal => rfl
  | scalar value => rfl
  | fragment source => exact setAll_eq_bindAll table source.params.entries
  | notice dropped => rfl
  | append first second firstIh secondIh =>
    have firstFresh := fresh.bindAll first.callerNamed_bindings
    calc (emit (.append first second) table).2
        = (second.emit (first.emit table).2).2 := rfl
      _ = (table.bindAll first.bindings).bindAll second.bindings := by
          rw [firstIh fresh, secondIh firstFresh]
      _ = table.bindAll (first.bindings ++ second.bindings) := by
          simp [Table.bindAll]
  | nested body ih =>
    calc (emit (.nested body) table).2
        = table.absorb (table.fork.bindAll body.bindings) := by
          rw [← ih (Table.sound_fork table).fresh]; rfl
      _ = table.bindAll body.bindings :=
          Table.absorb_fork_bindAll fresh body.callerNamed_bindings

theorem params_build (template : Template) :
    template.build.params = ({} : Table).bindAll template.bindings :=
  emit_table Table.sound_empty.fresh

theorem sound_build (template : Template) : template.build.params.Sound := by
  rw [params_build]
  exact Table.sound_empty.bindAll template.callerNamed_bindings

theorem next_build (template : Template) :
    template.build.params.next = template.scalars.length := by
  rw [params_build, Table.next_bindAll, filterMap_bindings, Nat.zero_add]

/-- The generated entries of a statement are its scalars, numbered from zero. -/
theorem generatedEntries_build (template : Template) :
    template.build.params.generatedEntries = Placeholder.numbered 0 template.scalars := by
  rw [params_build, Table.generatedEntries_bindAll template.callerNamed_bindings,
    filterMap_bindings]
  rfl

end SqlWright.Template
