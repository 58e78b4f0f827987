import SqlWright.Proofs.Statement.Freezing
/-! Changes to different clauses of a statement. A change looks at the clauses it is addressed to
and leaves all others alone, so what is rendered depends on the order of the changes to each clause
and not on how the changes to different clauses are mixed. -/
namespace SqlWright

section Rearranging

variable {State Call Key : Type} {act : State → Call → State} {touches : Call → Key → Prop}

/-- Calls that touch nothing do nothing, and two that touch nothing in common may change places. -/
structure Independent (act : State → Call → State) (touches : Call → Key → Prop) : Prop where
  idle : ∀ {call}, (∀ key, ¬ touches call key) → ∀ state, act state call = state
  swap : ∀ {first second}, (∀ key, touches first key → ¬ touches second key) → ∀ state,
    act (act state first) second = act (act state second) first

variable {calls ahead behind : List Call} {call : Call} {state : State}

private theorem Independent.foldl_idle (independent : Independent act touches)
    (idle : ∀ call ∈ calls, ∀ key, ¬ touches call key) : calls.foldl act state = state := by
  induction calls with
  | nil => rfl
  | cons call rest ih =>
    obtain ⟨own, others⟩ := List.forall_mem_cons.mp idle
    rw [List.foldl_cons, independent.idle own, ih others]

/-- A call may be made before those that touch nothing in common with it. -/
private theorem Independent.foldl_move (independent : Independent act touches)
    (apart : ∀ other ∈ ahead, ∀ key, touches call key → ¬ touches other key) :
    (ahead ++ call :: behind).foldl act state = (ahead ++ behind).foldl act (act state call) := by
  induction ahead generalizing state with
  | nil => rfl
  | cons other ahead ih =>
    obtain ⟨own, others⟩ := List.forall_mem_cons.mp apart
    rw [List.cons_append, List.foldl_cons, ih others, ← independent.swap own]
    rfl

open Classical in
/-- A call that comes first for each of its keys is preceded only by calls that touch none of
them. -/
private theorem exists_split {key : Key} (own : touches call key)
    (leads : ∀ key, touches call key →
      ∃ later, calls.filter (touches · key) = call :: later) :
    ∃ ahead behind, calls = ahead ++ call :: behind ∧
      ∀ other ∈ ahead, ∀ key, touches call key → ¬ touches other key := by
  induction calls with
  | nil =>
    obtain ⟨later, found⟩ := leads key own
    cases found
  | cons other calls ih =>
    by_cases shared : ∃ key, touches call key ∧ touches other key
    · obtain ⟨key, own, alsoOther⟩ := shared
      obtain ⟨later, found⟩ := leads key own
      rw [List.filter_cons_of_pos (by simpa using alsoOther)] at found
      obtain ⟨rfl, -⟩ := List.cons.inj found
      exact ⟨[], calls, rfl, List.forall_mem_nil _⟩
    · have apart : ∀ key, touches call key → ¬ touches other key :=
        fun key own alsoOther => shared ⟨key, own, alsoOther⟩
      obtain ⟨ahead, behind, rfl, others⟩ := ih fun key own => by
        obtain ⟨later, found⟩ := leads key own
        rw [List.filter_cons_of_neg (by simpa using apart key own)] at found
        exact ⟨later, found⟩
      exact ⟨other :: ahead, behind, rfl, List.forall_mem_cons.mpr ⟨apart, others⟩⟩

open Classical in
/-- Two sequences still agree when the first call of the one is taken out of both. -/
private theorem filter_split_eq {first : List Call}
    (apart : ∀ other ∈ ahead, ∀ key, touches call key → ¬ touches other key)
    (same : ∀ key, (call :: first).filter (touches · key) =
      (ahead ++ call :: behind).filter (touches · key)) (key : Key) :
    first.filter (touches · key) = (ahead ++ behind).filter (touches · key) := by
  have found := same key
  by_cases own : touches call key
  · have none : ahead.filter (touches · key) = [] :=
      List.filter_eq_nil_iff.mpr fun other member => by simpa using apart other member key own
    rw [List.filter_cons_of_pos (by simpa using own), List.filter_append, none, List.nil_append,
      List.filter_cons_of_pos (by simpa using own)] at found
    rw [List.filter_append, none, List.nil_append]
    exact (List.cons.inj found).2
  · rw [List.filter_cons_of_neg (by simpa using own), List.filter_append,
      List.filter_cons_of_neg (by simpa using own)] at found
    rw [List.filter_append]
    exact found

open Classical in
/-- Two sequences with the same calls to every key, in the same order, come to the same state. -/
theorem Independent.foldl_eq (independent : Independent act touches) {first second : List Call}
    (same : ∀ key, first.filter (touches · key) = second.filter (touches · key)) (state : State) :
    first.foldl act state = second.foldl act state := by
  induction first generalizing second state with
  | nil =>
    refine (independent.foldl_idle fun call member key own => ?_).symm
    exact List.filter_eq_nil_iff.mp (same key).symm call member (by simpa using own)
  | cons call first ih =>
    rw [List.foldl_cons]
    by_cases reaches : ∃ key, touches call key
    · obtain ⟨key, own⟩ := reaches
      have leads : ∀ key, touches call key →
          second.filter (touches · key) = call :: first.filter (touches · key) := by
        intro key own
        rw [← same, List.filter_cons_of_pos (by simpa using own)]
      obtain ⟨ahead, behind, rfl, apart⟩ :=
        exists_split own fun key own => ⟨_, leads key own⟩
      -- The other sequence may make this call first too, and then both go on with the rest.
      rw [independent.foldl_move apart]
      exact ih (filter_split_eq apart same) _
    · have idle : ∀ key, ¬ touches call key := fun key own => reaches ⟨key, own⟩
      rw [independent.idle idle]
      refine ih (fun key => ?_) _
      rw [← same, List.filter_cons_of_neg (by simpa using idle key)]

end Rearranging

/-- The clauses that statements are made of. -/
inductive Clause where
  /-- The table, the style and the kept text, which no change is addressed to. -/
  | head
  | projection
  | into
  | unions
  | unionAll
  | commaJoins
  | typedJoins
  | filter
  | groupBy
  | having
  | orderBy
  | limit
  | page
  | assignments
  | row
  | source
  | onDuplicate
  | ignore
  | replace
  | transaction
  deriving DecidableEq

/-- What may stand in a clause. -/
def Clause.Content : Clause → Type
  | .head => String × Style × Option Rendered
  | .projection => Fields
  | .into => Option String
  | .unions => List Select
  | .commaJoins | .groupBy | .orderBy => List String
  | .typedJoins => List Join
  | .filter | .having => Predicates
  | .limit => Limit
  | .page => Option UInt64
  | .assignments | .onDuplicate => Assignments
  | .row => Row
  | .source => Option Select
  | .unionAll | .ignore | .replace | .transaction => Bool

/-- The clauses that a revision reaches. One of the joins passes over the joins of a kind if it
neither changes them nor looks at them. -/
def Revision.Reaches : Revision → Clause → Prop
  | .filter _, clause => clause = .filter
  | .joins edit, .commaJoins =>
    ¬ ∃ ofTyped : List Join → List Join, ∀ joins, edit joins = ⟨joins.comma, ofTyped joins.typed⟩
  | .joins edit, .typedJoins =>
    ¬ ∃ ofComma : List String → List String,
      ∀ joins, edit joins = ⟨ofComma joins.comma, joins.typed⟩
  | .joins _, _ => False

open Builder

/-- A kind of statement by its clauses: what stands in them, if it has them, and which of them a
change is addressed to. -/
class Clausal (Stmt : Type) [Builder Stmt] [Handout Stmt] where
  content : Stmt → (clause : Clause) → Option clause.Content
  target : Change Stmt → Clause
  Reaches : Handout.Revision Stmt → Clause → Prop

/-- A statement is made of its clauses, and a change neither touches nor looks at the clauses that
it is not addressed to. -/
class LawfulClausal (Stmt : Type) [Builder Stmt] [Handout Stmt] [Clausal Stmt] : Prop where
  ext : ∀ (first second : Stmt),
    (∀ clause, Clausal.content first clause = Clausal.content second clause) → first = second
  apply_other : ∀ (change : Change Stmt) (stmt : Stmt) (clause : Clause),
    Clausal.target change ≠ clause →
      Clausal.content (apply change stmt) clause = Clausal.content stmt clause
  apply_own : ∀ (change : Change Stmt), ∃ edit, ∀ stmt : Stmt,
    Clausal.content (apply change stmt) (Clausal.target change) =
      (Clausal.content stmt (Clausal.target change)).map edit
  revise_other : ∀ (revision : Handout.Revision Stmt) (stmt : Stmt) (clause : Clause),
    ¬ Clausal.Reaches revision clause →
      Clausal.content (Handout.revise revision stmt) clause = Clausal.content stmt clause
  revise_own : ∀ (revision : Handout.Revision Stmt) (first second : Stmt),
    (∀ clause, Clausal.Reaches revision clause →
      Clausal.content first clause = Clausal.content second clause) →
    ∀ clause, Clausal.Reaches revision clause →
      Clausal.content (Handout.revise revision first) clause =
        Clausal.content (Handout.revise revision second) clause

instance : Clausal Select where
  content select
    | .head => some (select.table, select.style, select.rendered)
    | .projection => some select.fields
    | .into => some select.into
    | .unions => some select.unions
    | .unionAll => some select.unionAll
    | .commaJoins => some select.joins.comma
    | .typedJoins => some select.joins.typed
    | .filter => some select.filter
    | .groupBy => some select.groupBy
    | .having => some select.having
    | .orderBy => some select.orderBy
    | .limit => some select.limit
    | .page => some select.page
    | .assignments | .row | .source | .onDuplicate | .ignore | .replace | .transaction => none
  target
    | .fields _ => .projection
    | .into _ => .into
    | .commaJoin _ => .commaJoins
    | .join _ => .typedJoins
    | .filter _ => .filter
    | .groupBy _ => .groupBy
    | .having _ => .having
    | .orderBy _ => .orderBy
    | .limit _ => .limit
    | .page _ => .page
    | .union _ => .unions
    | .unionAll _ => .unionAll
  Reaches := Revision.Reaches

instance : Clausal Insert where
  content insert
    | .head => some (insert.table, insert.style, insert.rendered)
    | .row => some insert.row
    | .source => some insert.source
    | .onDuplicate => some insert.onDuplicate
    | .ignore => some insert.ignore
    | .replace => some insert.replace
    | .transaction => some insert.usesTransaction
    | .projection | .into | .unions | .unionAll | .commaJoins | .typedJoins | .filter | .groupBy
    | .having | .orderBy | .limit | .page | .assignments => none
  target
    | .values _ => .row
    | .source _ => .source
    | .onDuplicate _ => .onDuplicate
    | .ignore _ => .ignore
    | .replace _ => .replace
    | .useTransaction _ => .transaction
  Reaches revision := nomatch revision

instance : Clausal Update where
  content update
    | .head => some (update.table, update.style, update.rendered)
    | .assignments => some update.assignments
    | .commaJoins => some update.joins.comma
    | .typedJoins => some update.joins.typed
    | .filter => some update.filter
    | .transaction => some update.usesTransaction
    | .projection | .into | .unions | .unionAll | .groupBy | .having | .orderBy | .limit | .page
    | .row | .source | .onDuplicate | .ignore | .replace => none
  target
    | .set _ => .assignments
    | .commaJoin _ => .commaJoins
    | .join _ => .typedJoins
    | .filter _ => .filter
    | .useTransaction _ => .transaction
  Reaches := Revision.Reaches

instance : Clausal Delete where
  content delete
    | .head => some (delete.table, delete.style, delete.rendered)
    | .filter => some delete.filter
    | .transaction => some delete.usesTransaction
    | .projection | .into | .unions | .unionAll | .commaJoins | .typedJoins | .groupBy | .having
    | .orderBy | .limit | .page | .assignments | .row | .source | .onDuplicate | .ignore
    | .replace => none
  target
    | .filter _ => .filter
    | .useTransaction _ => .transaction
  Reaches _ clause := clause = .filter

namespace Revision

variable {edit : Joins → Joins}

/-- Joins that a revision passes over stay as they are. -/
private theorem joins_unreached (edit : Joins → Joins) (joins : Joins) :
    (¬ (Revision.joins edit).Reaches .commaJoins → (edit joins).comma = joins.comma) ∧
      (¬ (Revision.joins edit).Reaches .typedJoins → (edit joins).typed = joins.typed) := by
  constructor
  · intro unreached
    obtain ⟨ofTyped, same⟩ := Classical.not_not.mp unreached
    rw [same]
  · intro unreached
    obtain ⟨ofComma, same⟩ := Classical.not_not.mp unreached
    rw [same]

/-- What a revision makes of the joins it reaches depends on these alone. -/
private theorem joins_reached {first second : Joins}
    (comma : (Revision.joins edit).Reaches .commaJoins → first.comma = second.comma)
    (typed : (Revision.joins edit).Reaches .typedJoins → first.typed = second.typed) :
    ((Revision.joins edit).Reaches .commaJoins → (edit first).comma = (edit second).comma) ∧
      ((Revision.joins edit).Reaches .typedJoins → (edit first).typed = (edit second).typed) := by
  by_cases onTyped : (Revision.joins edit).Reaches .typedJoins
  · by_cases onComma : (Revision.joins edit).Reaches .commaJoins
    · have same : first = second := by
        cases first
        cases second
        exact congr (congrArg Joins.mk (comma onComma)) (typed onTyped)
      rw [same]
      exact ⟨fun _ => rfl, fun _ => rfl⟩
    · obtain ⟨alone, same⟩ := Classical.not_not.mp onComma
      refine ⟨fun own => absurd own onComma, fun _ => ?_⟩
      rw [same, same, typed onTyped]
  · obtain ⟨alone, same⟩ := Classical.not_not.mp onTyped
    refine ⟨fun onComma => ?_, fun own => absurd own onTyped⟩
    rw [same, same, comma onComma]

end Revision

instance : LawfulClausal Select where
  ext first second same := by
    obtain ⟨_, _, _, _, ⟨_, _⟩, _, _, _, _, _, _, _, _, _⟩ := first
    obtain ⟨_, _, _, _, ⟨_, _⟩, _, _, _, _, _, _, _, _, _⟩ := second
    obtain ⟨⟩ := same .head
    obtain ⟨⟩ := same .projection
    obtain ⟨⟩ := same .into
    obtain ⟨⟩ := same .unions
    obtain ⟨⟩ := same .unionAll
    obtain ⟨⟩ := same .commaJoins
    obtain ⟨⟩ := same .typedJoins
    obtain ⟨⟩ := same .filter
    obtain ⟨⟩ := same .groupBy
    obtain ⟨⟩ := same .having
    obtain ⟨⟩ := same .orderBy
    obtain ⟨⟩ := same .limit
    obtain ⟨⟩ := same .page
    rfl
  apply_other change stmt clause other := by
    cases change with
    | commaJoin target => cases target <;> cases clause <;> first | rfl | exact absurd rfl other
    | union selects => cases selects <;> cases clause <;> first | rfl | exact absurd rfl other
    | _ => cases clause <;> first | rfl | exact absurd rfl other
  apply_own
    | .fields fields => ⟨(Fields.merge · fields), fun _ => rfl⟩
    | .into target => ⟨fun _ => target, fun _ => rfl⟩
    | .commaJoin (some target) => ⟨fun (targets : List String) => targets ++ [target], fun _ => rfl⟩
    | .commaJoin none => ⟨fun _ => [], fun _ => rfl⟩
    | .join join => ⟨fun (joins : List Join) => joins ++ [join], fun _ => rfl⟩
    | .filter predicates => ⟨(Predicates.merge · predicates), fun _ => rfl⟩
    | .groupBy columns => ⟨(Select.addColumns · columns), fun _ => rfl⟩
    | .having predicates => ⟨(Predicates.merge · predicates), fun _ => rfl⟩
    | .orderBy columns => ⟨(Select.addColumns · columns), fun _ => rfl⟩
    | .limit limit => ⟨fun _ => limit, fun _ => rfl⟩
    | .page page => ⟨fun _ => page, fun _ => rfl⟩
    | .union (some other) => ⟨fun (selects : List Select) => selects ++ [other], fun _ => rfl⟩
    | .union none => ⟨fun _ => [], fun _ => rfl⟩
    | .unionAll all => ⟨fun _ => all, fun _ => rfl⟩
  revise_other revision stmt clause other := by
    cases revision with
    | filter edit => cases clause <;> first | rfl | exact absurd rfl other
    | joins edit =>
      obtain ⟨comma, typed⟩ := Revision.joins_unreached edit stmt.joins
      cases clause with
      | commaJoins => exact congrArg some (comma other)
      | typedJoins => exact congrArg some (typed other)
      | _ => rfl
  revise_own revision first second agree clause own := by
    cases revision with
    | filter edit =>
      obtain rfl := own
      exact congrArg (Option.map edit) (agree .filter rfl)
    | joins edit =>
      obtain ⟨comma, typed⟩ := Revision.joins_reached
        (fun own => Option.some.inj (agree .commaJoins own))
        (fun own => Option.some.inj (agree .typedJoins own))
      cases clause with
      | commaJoins => exact congrArg some (comma own)
      | typedJoins => exact congrArg some (typed own)
      | _ => exact own.elim

instance : LawfulClausal Insert where
  ext first second same := by
    obtain ⟨_, _, _, _, _, _, _, _, _⟩ := first
    obtain ⟨_, _, _, _, _, _, _, _, _⟩ := second
    obtain ⟨⟩ := same .head
    obtain ⟨⟩ := same .row
    obtain ⟨⟩ := same .source
    obtain ⟨⟩ := same .onDuplicate
    obtain ⟨⟩ := same .ignore
    obtain ⟨⟩ := same .replace
    obtain ⟨⟩ := same .transaction
    rfl
  apply_other change stmt clause other := by
    cases change <;> cases clause <;> first | rfl | exact absurd rfl other
  apply_own
    | .values row => ⟨fun _ => row, fun _ => rfl⟩
    | .source select => ⟨fun _ => select, fun _ => rfl⟩
    | .onDuplicate assignments => ⟨(Assignments.merge · assignments), fun _ => rfl⟩
    | .ignore ignore => ⟨fun _ => ignore, fun _ => rfl⟩
    | .replace replace => ⟨fun _ => replace, fun _ => rfl⟩
    | .useTransaction enabled => ⟨fun _ => enabled, fun _ => rfl⟩
  revise_other revision := nomatch revision
  revise_own revision := nomatch revision

instance : LawfulClausal Update where
  ext first second same := by
    obtain ⟨_, _, _, _, ⟨_, _⟩, _, _⟩ := first
    obtain ⟨_, _, _, _, ⟨_, _⟩, _, _⟩ := second
    obtain ⟨⟩ := same .head
    obtain ⟨⟩ := same .assignments
    obtain ⟨⟩ := same .commaJoins
    obtain ⟨⟩ := same .typedJoins
    obtain ⟨⟩ := same .filter
    obtain ⟨⟩ := same .transaction
    rfl
  apply_other change stmt clause other := by
    cases change with
    | commaJoin target => cases target <;> cases clause <;> first | rfl | exact absurd rfl other
    | _ => cases clause <;> first | rfl | exact absurd rfl other
  apply_own
    | .set assignments => ⟨(Assignments.merge · assignments), fun _ => rfl⟩
    | .commaJoin (some target) => ⟨fun (targets : List String) => targets ++ [target], fun _ => rfl⟩
    | .commaJoin none => ⟨fun _ => [], fun _ => rfl⟩
    | .join join => ⟨fun (joins : List Join) => joins ++ [join], fun _ => rfl⟩
    | .filter predicates => ⟨(Predicates.merge · predicates), fun _ => rfl⟩
    | .useTransaction enabled => ⟨fun _ => enabled, fun _ => rfl⟩
  revise_other revision stmt clause other := by
    cases revision with
    | filter edit => cases clause <;> first | rfl | exact absurd rfl other
    | joins edit =>
      obtain ⟨comma, typed⟩ := Revision.joins_unreached edit stmt.joins
      cases clause with
      | commaJoins => exact congrArg some (comma other)
      | typedJoins => exact congrArg some (typed other)
      | _ => rfl
  revise_own revision first second agree clause own := by
    cases revision with
    | filter edit =>
      obtain rfl := own
      exact congrArg (Option.map edit) (agree .filter rfl)
    | joins edit =>
      obtain ⟨comma, typed⟩ := Revision.joins_reached
        (fun own => Option.some.inj (agree .commaJoins own))
        (fun own => Option.some.inj (agree .typedJoins own))
      cases clause with
      | commaJoins => exact congrArg some (comma own)
      | typedJoins => exact congrArg some (typed own)
      | _ => exact own.elim

instance : LawfulClausal Delete where
  ext first second same := by
    obtain ⟨_, _, _, _, _⟩ := first
    obtain ⟨_, _, _, _, _⟩ := second
    obtain ⟨⟩ := same .head
    obtain ⟨⟩ := same .filter
    obtain ⟨⟩ := same .transaction
    rfl
  apply_other change stmt clause other := by
    cases change <;> cases clause <;> first | rfl | exact absurd rfl other
  apply_own
    | .filter predicates => ⟨(Predicates.merge · predicates), fun _ => rfl⟩
    | .useTransaction enabled => ⟨fun _ => enabled, fun _ => rfl⟩
  revise_other revision stmt clause other := by
    cases clause <;> first | rfl | exact absurd rfl other
  revise_own revision first second agree clause own := by
    obtain rfl := own
    exact congrArg (Option.map revision) (agree .filter rfl)

namespace StatementKind

instance : (kind : StatementKind) → Clausal kind.Stmt
  | .select => inferInstanceAs (Clausal Select)
  | .insert => inferInstanceAs (Clausal Insert)
  | .update => inferInstanceAs (Clausal Update)
  | .delete => inferInstanceAs (Clausal Delete)

instance : (kind : StatementKind) → LawfulClausal kind.Stmt
  | .select => inferInstanceAs (LawfulClausal Select)
  | .insert => inferInstanceAs (LawfulClausal Insert)
  | .update => inferInstanceAs (LawfulClausal Update)
  | .delete => inferInstanceAs (LawfulClausal Delete)

end StatementKind

namespace Freezing

variable {kind : StatementKind}

namespace Mutation

def apply (stmt : kind.Stmt) : Mutation kind → kind.Stmt
  | .amend change => Builder.apply change stmt
  | .revise revision => Handout.revise revision stmt

/-- Whether a mutation is addressed to a clause. -/
def Addresses : Mutation kind → Clause → Prop
  | .amend change, clause => Clausal.target change = clause
  | .revise revision, clause => Clausal.Reaches revision clause

theorem content_other (mutation : Mutation kind) (stmt : kind.Stmt) {clause : Clause}
    (other : ¬ mutation.Addresses clause) :
    Clausal.content (mutation.apply stmt) clause = Clausal.content stmt clause := by
  cases mutation with
  | amend change => exact LawfulClausal.apply_other change stmt clause other
  | revise revision => exact LawfulClausal.revise_other revision stmt clause other

/-- What becomes of the clauses that a mutation is addressed to depends on these alone. -/
theorem content_own (mutation : Mutation kind) {first second : kind.Stmt}
    (agree : ∀ clause, mutation.Addresses clause →
      Clausal.content first clause = Clausal.content second clause)
    {clause : Clause} (own : mutation.Addresses clause) :
    Clausal.content (mutation.apply first) clause =
      Clausal.content (mutation.apply second) clause := by
  cases mutation with
  | amend change =>
    obtain rfl := own
    obtain ⟨edit, edits⟩ := LawfulClausal.apply_own change
    show Clausal.content (Builder.apply change first) _ =
      Clausal.content (Builder.apply change second) _
    rw [edits, edits, agree _ rfl]
  | revise revision => exact LawfulClausal.revise_own revision first second agree clause own

theorem independent : Independent (@Mutation.apply kind) Mutation.Addresses where
  idle none stmt := LawfulClausal.ext _ _ fun clause => content_other _ _ (none clause)
  swap := by
    intro first second apart stmt
    refine LawfulClausal.ext _ _ fun clause => ?_
    by_cases own : first.Addresses clause
    · have unread : ∀ clause, first.Addresses clause →
          Clausal.content stmt clause = Clausal.content (second.apply stmt) clause :=
        fun clause own => (second.content_other stmt (apart clause own)).symm
      rw [second.content_other _ (apart clause own), first.content_own unread own]
    · rw [first.content_other _ own]
      by_cases also : second.Addresses clause
      · refine second.content_own (fun clause also => ?_) also
        exact first.content_other stmt fun own => apart clause own also
      · rw [second.content_other _ also, second.content_other _ also, first.content_other _ own]

end Mutation

/-- Make mutations in order; the first that is refused is the error. -/
def attemptAll (stmt : kind.Stmt) (mutations : List (Mutation kind)) : Except Failure kind.Stmt :=
  mutations.foldlM attempt stmt

theorem attempt_of_unfrozen {stmt : kind.Stmt} (unrendered : isFrozen stmt = false)
    (mutation : Mutation kind) : attempt stmt mutation = .ok (mutation.apply stmt) ∧
      isFrozen (mutation.apply stmt) = false := by
  cases mutation with
  | amend change =>
    refine ⟨by simp [attempt, Builder.amend, unrendered, Mutation.apply], ?_⟩
    rw [← unrendered, isFrozen, isFrozen, Mutation.apply, LawfulBuilder.frozen_apply]
  | revise revision =>
    refine ⟨by simp [attempt, Builder.revise, unrendered, Mutation.apply], ?_⟩
    rw [← unrendered, isFrozen, isFrozen, Mutation.apply, kind.frozen_revise]

/-- Before it is rendered a statement takes all mutations. -/
theorem attemptAll_of_unfrozen {stmt : kind.Stmt} (unrendered : isFrozen stmt = false)
    (mutations : List (Mutation kind)) :
    attemptAll stmt mutations = .ok (mutations.foldl Mutation.apply stmt) := by
  induction mutations generalizing stmt with
  | nil => rfl
  | cons mutation rest ih =>
    obtain ⟨accepted, still⟩ := attempt_of_unfrozen unrendered mutation
    rw [attemptAll, List.foldlM_cons, accepted]
    exact ih still

open Classical in
/-- The mutations that are addressed to a clause, in their order. -/
noncomputable def addressedTo (clause : Clause) (mutations : List (Mutation kind)) :
    List (Mutation kind) :=
  mutations.filter (·.Addresses clause)

/-- Two sequences of mutations that agree for every clause in the mutations addressed to it and in
their order, however those to different clauses are mixed: a statement that is not rendered yet
takes all of them, and is rendered to the same text and table after the one as after the other. -/
theorem render_eq_of_addressedTo_eq (kind : StatementKind) (stmt : kind.Stmt)
    (unrendered : isFrozen stmt = false) (first second : List (Mutation kind))
    (same : ∀ clause, addressedTo clause first = addressedTo clause second) :
    ∃ one other, attemptAll stmt first = .ok one ∧ attemptAll stmt second = .ok other ∧
      render one = render other := by
  refine ⟨_, _, attemptAll_of_unfrozen unrendered first,
    attemptAll_of_unfrozen unrendered second, ?_⟩
  rw [Mutation.independent.foldl_eq same stmt]

def aging : Mutation .update := .amend (.set [("age", .value (.int 5))])

def choosing : Mutation .update := .amend (.filter [.equal "id" (.value (.int 7))])

def joining : Mutation .update := .revise (.joins (·.addComma (some "roles r")))

private theorem joining_addresses (clause : Clause) :
    joining.Addresses clause ↔ clause = .commaJoins := by
  cases clause with
  | commaJoins =>
    refine iff_of_true (fun ⟨ofTyped, alone⟩ => ?_) rfl
    cases alone .none
  | typedJoins =>
    exact iff_of_false (fun reached => reached ⟨(· ++ ["roles r"]), fun _ => rfl⟩) nofun
  | _ => exact iff_of_false id nofun

/-- An update is given its values around its condition and a table to join, or between them. -/
theorem render_eq_of_addressedTo_eq_of_mixed :
    let stmt := StatementKind.update.draft "users" .standard
    isFrozen stmt = false ∧
      (∀ clause, addressedTo clause [naming, choosing, joining, aging] =
        addressedTo clause [joining, naming, aging, choosing]) ∧
      ∃ one other, attemptAll stmt [naming, choosing, joining, aging] = .ok one ∧
        attemptAll stmt [joining, naming, aging, choosing] = .ok other ∧
        render one = render other := by
  intro stmt
  have same : ∀ clause, addressedTo clause [naming, choosing, joining, aging] =
      addressedTo clause [joining, naming, aging, choosing] := by
    have onNaming (clause : Clause) : naming.Addresses clause ↔ .assignments = clause := Iff.rfl
    have onAging (clause : Clause) : aging.Addresses clause ↔ .assignments = clause := Iff.rfl
    have onChoosing (clause : Clause) : choosing.Addresses clause ↔ .filter = clause := Iff.rfl
    intro clause
    simp only [addressedTo, List.filter_cons, onNaming, onAging, onChoosing, joining_addresses]
    cases clause <;> simp
  exact ⟨rfl, same, render_eq_of_addressedTo_eq .update stmt rfl _ _ same⟩

end Freezing

end SqlWright
