import SqlWright.Statement.Basic
/-! What a statement becomes: it starts without a kept text, takes amendments, and is
rendered. The kept text is that of the current clauses in every such state. -/
namespace SqlWright

/-- Keeping a text changes no clause, and amending a clause leaves the kept text alone. -/
class LawfulBuilder (Stmt : Type) [Builder Stmt] : Prop where
  template_freeze : ∀ (rendered : Rendered) (stmt : Stmt),
    Builder.template (Builder.freeze rendered stmt) = Builder.template stmt
  frozen_freeze : ∀ (rendered : Rendered) (stmt : Stmt),
    Builder.frozen (Builder.freeze rendered stmt) = some rendered
  frozen_apply : ∀ (change : Builder.Change Stmt) (stmt : Stmt),
    Builder.frozen (Builder.apply change stmt) = Builder.frozen stmt

instance : LawfulBuilder Select where
  template_freeze rendered stmt := by
    obtain ⟨⟩ := stmt
    simp [Builder.template, Builder.freeze, Select.template]
  frozen_freeze _ _ := rfl
  frozen_apply change _ := by
    cases change with
    | union other => cases other <;> rfl
    | _ => rfl

instance : LawfulBuilder Insert where
  template_freeze _ _ := rfl
  frozen_freeze _ _ := rfl
  frozen_apply change _ := by cases change <;> rfl

instance : LawfulBuilder Update where
  template_freeze _ _ := rfl
  frozen_freeze _ _ := rfl
  frozen_apply change _ := by cases change <;> rfl

instance : LawfulBuilder Delete where
  template_freeze _ _ := rfl
  frozen_freeze _ _ := rfl
  frozen_apply change _ := by cases change <;> rfl

namespace Builder

variable {Stmt : Type} [Builder Stmt]

/-- The states of a statement with any clauses: new, amended, or rendered. -/
inductive Reachable : Stmt → Prop where
  | start {stmt : Stmt} (unkept : frozen stmt = none) : Reachable stmt
  | amended {stmt changed : Stmt} {change : Change Stmt} (before : Reachable stmt)
      (accepted : amend stmt change = .ok changed) : Reachable changed
  | rendered {stmt : Stmt} (before : Reachable stmt) : Reachable (render stmt).2

/-- A kept text is the text of the current clauses. -/
def Consistent (stmt : Stmt) : Prop :=
  ∀ rendered, frozen stmt = some rendered → rendered = build stmt

variable [LawfulBuilder Stmt] {stmt : Stmt}

/-- Amending succeeds only before a text is kept, so there is none afterwards. -/
theorem frozen_of_amend {changed : Stmt} {change : Change Stmt}
    (accepted : amend stmt change = .ok changed) : frozen changed = none := by
  unfold amend at accepted
  split at accepted
  · cases accepted
  · next unkept =>
    cases accepted
    rw [LawfulBuilder.frozen_apply]
    simpa [isFrozen] using unkept

theorem Consistent.render (consistent : Consistent stmt) : Consistent (render stmt).2 := by
  unfold Builder.render
  split
  · exact consistent
  · intro rendered kept
    rw [LawfulBuilder.frozen_freeze] at kept
    rw [build, LawfulBuilder.template_freeze]
    exact (Option.some.inj kept).symm

theorem Reachable.consistent (reachable : Reachable stmt) : Consistent stmt := by
  induction reachable with
  | start unkept =>
    intro rendered kept
    rw [unkept] at kept
    cases kept
  | amended _ accepted _ =>
    intro rendered kept
    rw [frozen_of_amend accepted] at kept
    cases kept
  | rendered _ ih => exact ih.render

/-- Rendering gives the text and table of the current clauses, kept or not. -/
theorem Reachable.render_eq_build (reachable : Reachable stmt) : (render stmt).1 = build stmt := by
  unfold Builder.render
  split
  · next rendered kept => exact reachable.consistent rendered kept
  · rfl

end Builder

namespace Statement

/-- The clauses laid out in the statement's own style. -/
def template : Statement → Template
  | .select stmt => Builder.template stmt
  | .insert stmt => Builder.template stmt
  | .update stmt => Builder.template stmt
  | .delete stmt => Builder.template stmt

def style : Statement → Style
  | .select stmt => stmt.style
  | .insert stmt => stmt.style
  | .update stmt => stmt.style
  | .delete stmt => stmt.style

def Reachable : Statement → Prop
  | .select stmt => Builder.Reachable stmt
  | .insert stmt => Builder.Reachable stmt
  | .update stmt => Builder.Reachable stmt
  | .delete stmt => Builder.Reachable stmt

theorem Reachable.render_eq_build {stmt : Statement} (reachable : stmt.Reachable) :
    stmt.render.1 = stmt.template.build := by
  cases stmt with
  | select stmt => exact Builder.Reachable.render_eq_build reachable
  | insert stmt => exact Builder.Reachable.render_eq_build reachable
  | update stmt => exact Builder.Reachable.render_eq_build reachable
  | delete stmt => exact Builder.Reachable.render_eq_build reachable

end Statement

end SqlWright
