import SqlWright.Statement.Handout
import SqlWright.Proofs.Statement.Lifecycle
/-! The calls on a statement and on its copies, in any order. Whether a statement can still be
changed is decided by the calls alone: it cannot from the moment it was rendered, or copied from
one that had been, and from then on it always gives the same text and table. -/
namespace SqlWright

/-- The statements of a kind. -/
def StatementKind.Stmt : StatementKind → Type
  | .select => Select
  | .insert => Insert
  | .update => Update
  | .delete => Delete

namespace StatementKind

instance : (kind : StatementKind) → Builder kind.Stmt
  | .select => inferInstanceAs (Builder Select)
  | .insert => inferInstanceAs (Builder Insert)
  | .update => inferInstanceAs (Builder Update)
  | .delete => inferInstanceAs (Builder Delete)

instance : (kind : StatementKind) → Handout kind.Stmt
  | .select => inferInstanceAs (Handout Select)
  | .insert => inferInstanceAs (Handout Insert)
  | .update => inferInstanceAs (Handout Update)
  | .delete => inferInstanceAs (Handout Delete)

instance : (kind : StatementKind) → LawfulBuilder kind.Stmt
  | .select => inferInstanceAs (LawfulBuilder Select)
  | .insert => inferInstanceAs (LawfulBuilder Insert)
  | .update => inferInstanceAs (LawfulBuilder Update)
  | .delete => inferInstanceAs (LawfulBuilder Delete)

def draft (table : String) (style : Style) : (kind : StatementKind) → kind.Stmt
  | .select => Select.draft table style
  | .insert => Insert.draft table style
  | .update => Update.draft table style
  | .delete => Delete.draft table style

theorem kind_stmt (kind : StatementKind) : Builder.kind kind.Stmt = kind := by
  cases kind <;> rfl

theorem frozen_draft (kind : StatementKind) (table : String) (style : Style) :
    Builder.frozen (kind.draft table style) = none := by
  cases kind <;> rfl

theorem frozen_revise (kind : StatementKind) (revision : Handout.Revision kind.Stmt)
    (stmt : kind.Stmt) : Builder.frozen (Handout.revise revision stmt) = Builder.frozen stmt := by
  cases kind with
  | select => cases revision <;> rfl
  | insert => exact nomatch revision
  | update => cases revision <;> rfl
  | delete => rfl

end StatementKind

namespace Freezing

open Builder

/-- A change to a statement: an amendment, or the revision of a clause that it hands out. -/
inductive Mutation (kind : StatementKind) where
  | amend (change : Change kind.Stmt)
  | revise (revision : Handout.Revision kind.Stmt)

def attempt {kind : StatementKind} (stmt : kind.Stmt) :
    Mutation kind → Except Failure kind.Stmt
  | .amend change => Builder.amend stmt change
  | .revise revision => Builder.revise stmt revision

/-- What is asked of a rendered statement. -/
inductive View where
  | whole
  | sql
  | display
  | params

/-- A call on one of several statements of a kind. -/
inductive Call (kind : StatementKind) where
  | mutate (mutation : Mutation kind)
  | read (view : View)
  | isFrozen
  | clone

inductive Reply where
  | accepted
  | refused (failure : Failure)
  | whole (rendered : Rendered)
  | text (sql : String)
  | table (params : Table)
  | flag (isFrozen : Bool)
  /-- The copy is the statement at this index. -/
  | copied (index : Nat)
  deriving DecidableEq

def View.reply : View → Rendered → Reply
  | .whole, rendered => .whole rendered
  | .sql, rendered | .display, rendered => .text rendered.sql
  | .params, rendered => .table rendered.params

variable {kind : StatementKind}

namespace Call

/-- The answer to a call on a statement, where a copy would get this index. -/
def reply (stmt : kind.Stmt) (copy : Nat) : Call kind → Reply
  | .mutate mutation =>
    match attempt stmt mutation with
    | .ok _ => .accepted
    | .error failure => .refused failure
  | .read view => view.reply (render stmt).1
  | .isFrozen => .flag (Builder.isFrozen stmt)
  | .clone => .copied copy

/-- What a call makes of its statement. -/
def after (stmt : kind.Stmt) : Call kind → kind.Stmt
  | .mutate mutation =>
    match attempt stmt mutation with
    | .ok changed => changed
    | .error _ => stmt
  | .read _ => (render stmt).2
  | .isFrozen | .clone => stmt

def copies (stmt : kind.Stmt) : Call kind → List kind.Stmt
  | .clone => [stmt]
  | .mutate _ | .read _ | .isFrozen => []

/-- Whether a call renders its statement. -/
def renders : Call kind → Bool
  | .read _ => true
  | .mutate _ | .isFrozen | .clone => false

end Call

/-- Make a call on the statement at an index. A copy is put behind all others. -/
def perform (shelf : List kind.Stmt) (index : Nat) (call : Call kind) :
    Option Reply × List kind.Stmt :=
  match shelf[index]? with
  | none => (none, shelf)
  | some stmt =>
    (some (call.reply stmt shelf.length), shelf.set index (call.after stmt) ++ call.copies stmt)

def run (calls : List (Nat × Call kind)) (shelf : List kind.Stmt) : List kind.Stmt :=
  calls.foldl (fun shelf (index, call) => (perform shelf index call).2) shelf

/-- The marks on statements after a call: reading a statement marks it, and a copy carries the mark
of its original. -/
def mark (marks : List Bool) (index : Nat) : Call kind → List Bool
  | .read _ => marks.set index true
  | .clone => marks ++ (marks[index]?).toList
  | .mutate _ | .isFrozen => marks

/-- The statement at an index was rendered in the course of these calls, or is the copy of one that
had been when it was copied. -/
def RenderedIn (calls : List (Nat × Call kind)) (index : Nat) : Prop :=
  (calls.foldl (fun marks (index, call) => mark marks index call) [false])[index]? = some true

section Stepping

variable {stmt : kind.Stmt} {shelf : List kind.Stmt} {marks : List Bool} {index : Nat}

/-- Every mutation is subject to one check, and what passes it has no kept text. -/
theorem attempt_cases (stmt : kind.Stmt) (mutation : Mutation kind) :
    (isFrozen stmt = true ∧ attempt stmt mutation = .error (.frozen kind)) ∨
      (isFrozen stmt = false ∧ ∃ changed, attempt stmt mutation = .ok changed ∧
        frozen changed = none) := by
  cases flag : isFrozen stmt with
  | true =>
    refine .inl ⟨rfl, ?_⟩
    cases mutation <;> simp [attempt, Builder.amend, Builder.revise, flag, kind.kind_stmt]
  | false =>
    have unkept : frozen stmt = none := by simpa [isFrozen] using flag
    refine .inr ⟨rfl, ?_⟩
    cases mutation with
    | amend change =>
      refine ⟨Builder.apply change stmt, by simp [attempt, Builder.amend, flag], ?_⟩
      rw [LawfulBuilder.frozen_apply, unkept]
    | revise revision =>
      refine ⟨Handout.revise revision stmt, by simp [attempt, Builder.revise, flag], ?_⟩
      rw [kind.frozen_revise, unkept]

theorem consistent_of_unkept (unkept : frozen stmt = none) : Consistent stmt := by
  intro rendered kept
  rw [unkept] at kept
  cases kept

/-- A consistent statement is rendered as what its clauses are built to, and keeps it. -/
theorem render_of_consistent (consistent : Consistent stmt) :
    (render stmt).1 = build stmt ∧ frozen (render stmt).2 = some (build stmt) := by
  unfold render
  split
  · next rendered kept =>
    have isBuild := consistent rendered kept
    exact ⟨isBuild, isBuild ▸ kept⟩
  · exact ⟨rfl, LawfulBuilder.frozen_freeze _ _⟩

/-- A statement with a kept text is left by every call as it is. -/
theorem after_of_frozen {rendered : Rendered} (kept : frozen stmt = some rendered)
    (call : Call kind) : call.after stmt = stmt := by
  cases call with
  | mutate mutation =>
    rcases attempt_cases stmt mutation with ⟨-, refused⟩ | ⟨free, -⟩
    · simp [Call.after, refused]
    · simp [isFrozen, kept] at free
  | read view => simp [Call.after, render, kept]
  | isFrozen | clone => rfl

/-- A call that renders leaves a kept text behind, and no other call makes one. -/
theorem consistent_after (consistent : Consistent stmt) (call : Call kind) :
    Consistent (call.after stmt) ∧
      isFrozen (call.after stmt) = (isFrozen stmt || call.renders) := by
  cases call with
  | mutate mutation =>
    rcases attempt_cases stmt mutation with ⟨-, refused⟩ | ⟨free, changed, accepted, unkept⟩
    · simpa [Call.after, Call.renders, refused] using consistent
    · simp only [Call.after, Call.renders, accepted, free]
      exact ⟨consistent_of_unkept unkept, by simp [isFrozen, unkept]⟩
  | read view =>
    obtain ⟨-, kept⟩ := render_of_consistent consistent
    exact ⟨consistent.render, by simp [Call.after, Call.renders, isFrozen, kept]⟩
  | isFrozen | clone => simpa [Call.after, Call.renders] using consistent

/-- What holds of the statements between two calls: those that keep a text are the marked ones, and
a kept text is the text of the current clauses. -/
structure Settled (marks : List Bool) (shelf : List kind.Stmt) : Prop where
  flags : shelf.map isFrozen = marks
  consistent : ∀ stmt ∈ shelf, Consistent stmt

/-- On a statement that is there a call marks as it renders. -/
theorem mark_of_found {flag : Bool} (found : marks[index]? = some flag) (call : Call kind)
    (copies : List Bool) (own : copies = if call matches .clone then [flag] else []) :
    mark marks index call = marks.set index (flag || call.renders) ++ copies := by
  obtain ⟨inside, rfl⟩ := List.getElem?_eq_some_iff.mp found
  subst own
  cases call <;> simp [mark, Call.renders]

theorem Settled.perform (settled : Settled marks shelf) (index : Nat) (call : Call kind) :
    Settled (mark marks index call) (perform shelf index call).2 := by
  have marked : marks[index]? = (shelf[index]?).map isFrozen := by
    rw [← settled.flags, List.getElem?_map]
  unfold Freezing.perform
  cases found : shelf[index]? with
  | none =>
    rw [found] at marked
    have outside : marks.length ≤ index := List.getElem?_eq_none_iff.mp marked
    cases call <;> simpa [mark, List.set_eq_of_length_le, outside, marked] using settled
  | some stmt =>
    rw [found] at marked
    have onShelf : stmt ∈ shelf := List.mem_of_getElem? found
    obtain ⟨consistent, flag⟩ := consistent_after (settled.consistent stmt onShelf) call
    refine ⟨?_, ?_⟩
    · rw [mark_of_found marked call ((call.copies stmt).map isFrozen) (by cases call <;> rfl),
        List.map_append, List.map_set, flag, settled.flags]
    · intro other member
      rcases List.mem_append.mp member with old | copy
      · rcases List.mem_or_eq_of_mem_set old with old | rfl
        · exact settled.consistent other old
        · exact consistent
      · cases call with
        | clone =>
          rw [List.mem_singleton.mp copy]
          exact settled.consistent stmt onShelf
        | mutate | read | isFrozen => cases copy

/-- The statement at an index keeps this text. -/
def Keeps (shelf : List kind.Stmt) (index : Nat) (rendered : Rendered) : Prop :=
  ∃ stmt, shelf[index]? = some stmt ∧ frozen stmt = some rendered

/-- No call takes a kept text away or puts another one in its place. -/
theorem Keeps.perform {rendered : Rendered} (keeps : Keeps shelf index rendered) (other : Nat)
    (call : Call kind) : Keeps (perform shelf other call).2 index rendered := by
  obtain ⟨stmt, found, kept⟩ := keeps
  unfold Freezing.perform
  cases aimed : shelf[other]? with
  | none => exact ⟨stmt, found, kept⟩
  | some target =>
    have inside : index < shelf.length := (List.getElem?_eq_some_iff.mp found).1
    refine ⟨stmt, ?_, kept⟩
    rw [List.getElem?_append_left (by simpa using inside)]
    by_cases own : other = index
    · subst own
      obtain rfl : target = stmt := Option.some.inj (aimed.symm.trans found)
      rw [after_of_frozen kept, List.getElem?_set_self inside]
    · rw [List.getElem?_set_ne own, found]

end Stepping

section Running

variable {shelf : List kind.Stmt}

theorem Settled.run {marks : List Bool} (settled : Settled marks shelf)
    (calls : List (Nat × Call kind)) :
    Settled (calls.foldl (fun marks (index, call) => mark marks index call) marks)
      (run calls shelf) := by
  induction calls generalizing marks shelf with
  | nil => exact settled
  | cons call rest ih => exact ih (settled.perform call.1 call.2)

theorem Keeps.run {index : Nat} {rendered : Rendered} (keeps : Keeps shelf index rendered)
    (calls : List (Nat × Call kind)) : Keeps (run calls shelf) index rendered := by
  induction calls generalizing shelf with
  | nil => exact keeps
  | cons call rest ih => exact ih (keeps.perform call.1 call.2)

theorem Keeps.reply {index : Nat} {rendered : Rendered} (keeps : Keeps shelf index rendered)
    (view : View) :
    (Freezing.perform shelf index (.read view)).1 = some (view.reply rendered) := by
  obtain ⟨stmt, found, kept⟩ := keeps
  simp [Freezing.perform, found, Call.reply, render, kept]

end Running

/-- A statement of any kind and its copies after any calls. A text that is kept is the text of the
current clauses. A change is refused, as one to a frozen statement of this kind, if and only if the
statement was rendered, or copied from one that had been, and is accepted otherwise; a refused
change leaves every statement as it was. Reading gives the text and table of the current clauses,
and reading again after any other calls gives the same ones. -/
theorem changes_refused_iff_rendered (kind : StatementKind) (table : String) (style : Style)
    (calls : List (Nat × Call kind)) (index : Nat) (stmt : kind.Stmt)
    (found : (run calls [kind.draft table style])[index]? = some stmt) :
    let shelf := run calls [kind.draft table style]
    (∀ rendered, frozen stmt = some rendered → rendered = build stmt) ∧
    ((perform shelf index .isFrozen).1 = some (.flag true) ↔ RenderedIn calls index) ∧
    (∀ mutation,
      ((perform shelf index (.mutate mutation)).1 = some (.refused (.frozen kind)) ↔
        RenderedIn calls index) ∧
      ((perform shelf index (.mutate mutation)).1 = some .accepted ↔ ¬ RenderedIn calls index) ∧
      (RenderedIn calls index → (perform shelf index (.mutate mutation)).2 = shelf)) ∧
    ∀ view later again,
      (perform shelf index (.read view)).1 = some (view.reply (build stmt)) ∧
      (perform (run later (perform shelf index (.read view)).2) index (.read again)).1 =
        some (again.reply (build stmt)) := by
  intro shelf
  have begun : Settled [false] [kind.draft table style] := by
    have unkept := kind.frozen_draft table style
    refine ⟨by simp [isFrozen, unkept], ?_⟩
    intro stmt member
    rw [List.mem_singleton.mp member]
    exact consistent_of_unkept unkept
  have settled := begun.run calls
  have consistent : Consistent stmt := settled.consistent stmt (List.mem_of_getElem? found)
  have history : RenderedIn calls index ↔ isFrozen stmt = true := by
    rw [RenderedIn, ← settled.flags, List.getElem?_map, found]
    exact Option.some_inj
  obtain ⟨inside, own⟩ := List.getElem?_eq_some_iff.mp found
  refine ⟨consistent, ?_, ?_, ?_⟩
  · simp [perform, shelf, found, Call.reply, history]
  · intro mutation
    rw [history]
    rcases attempt_cases stmt mutation with ⟨kept, refused⟩ | ⟨free, changed, accepted, -⟩
    · have same : shelf.set index stmt = shelf := by
        rw [← own]
        exact List.set_getElem_self inside
      simp [perform, shelf, found, Call.reply, Call.after, Call.copies, kept, refused, same]
    · simp [perform, shelf, found, Call.reply, free, accepted]
  · intro view later again
    obtain ⟨isBuild, kept⟩ := render_of_consistent consistent
    have keeps : Keeps (perform shelf index (.read view)).2 index (build stmt) := by
      refine ⟨(render stmt).2, ?_, kept⟩
      rw [perform, show shelf[index]? = some stmt from found]
      simp [Call.after, Call.copies, shelf, inside]
    refine ⟨?_, (keeps.run later).reply again⟩
    simp [perform, shelf, found, Call.reply, isBuild]

def naming : Mutation .update := .amend (.set [("name", .value (.text "ann"))])

/-- An update is copied, rendered, and copied again, and then it and its first copy are changed. -/
def copying : List (Nat × Call .update) :=
  [(0, .mutate naming), (0, .clone), (0, .read .sql), (0, .clone), (0, .mutate naming),
    (1, .mutate naming)]

theorem changes_refused_iff_rendered_of_copies :
    let shelf := run copying [StatementKind.update.draft "users" .standard]
    (perform shelf 0 (.mutate naming)).1 = some (.refused (.frozen .update)) ∧
      (perform shelf 1 (.mutate naming)).1 = some .accepted ∧
      (perform shelf 2 (.mutate naming)).1 = some (.refused (.frozen .update)) ∧
      (perform shelf 0 (.read .params)).1 = some (.table ⟨[(":p0", .text "ann")], 1⟩) := by
  intro shelf
  have history (index : Nat) (stmt : Update) (found : shelf[index]? = some stmt) :=
    changes_refused_iff_rendered .update "users" .standard copying index stmt found
  obtain ⟨-, -, original, read⟩ := history 0 _ rfl
  obtain ⟨-, -, early, -⟩ := history 1 _ rfl
  obtain ⟨-, -, late, -⟩ := history 2 _ rfl
  exact ⟨(original naming).1.mpr rfl, (early naming).2.1.mpr nofun, (late naming).1.mpr rfl,
    (read .params [] .params).1.trans rfl⟩

end Freezing

end SqlWright
