import SqlWright.Proofs.Transaction.Protocol
/-! A transaction run over a database with staged changes: it publishes what one run of the
work made of the data it started from, or it leaves the data as they were. -/
namespace SqlWright.Transaction

variable {Result Data State : Type}

/-- What a database holds: the published data, and a staged copy while a transaction is open. -/
structure Holding (Data : Type) where
  committed : Data
  staged : Option Data
  deriving DecidableEq

/-- A driver over a database, with work that acts on the staged copy alone. What a commit or a
rollback that is not granted does to the staged copy is left open, and after such a rollback
nothing is known at all. -/
structure TransactionalDriver (Result Data State : Type) where
  respondent : Respondent (interface Result) State
  view : State → Holding Data
  start_granted : ∀ {state after}, respondent.answer .start state = (.ok true, after) →
    (view state).staged = none →
    view after = ⟨(view state).committed, some (view state).committed⟩
  start_denied : ∀ {state answer after}, respondent.answer .start state = (answer, after) →
    answer ≠ .ok true → view after = view state
  work_staged : ∀ {state copy outcome after}, respondent.answer .work state = (outcome, after) →
    (view state).staged = some copy →
    ∃ changed, view after = ⟨(view state).committed, some changed⟩
  commit_granted : ∀ {state copy after}, respondent.answer .commit state = (.ok true, after) →
    (view state).staged = some copy → view after = ⟨copy, none⟩
  commit_denied : ∀ {state answer after}, respondent.answer .commit state = (answer, after) →
    answer ≠ .ok true → (view after).committed = (view state).committed
  rollback_granted : ∀ {state after}, respondent.answer .rollback state = (.ok true, after) →
    view after = ⟨(view state).committed, none⟩
  pause : ∀ milliseconds state,
    view (respondent.answer (.pause milliseconds) state).2 = view state
  note : ∀ event state, view (respondent.note event state) = view state

/-- How a run that starts from published data and no open transaction may end. -/
structure Atomic (view : State → Holding Data) (initial : Data)
    (exchanges : List (Exchange (interface Result) State)) (outcome : Except Failure Result)
    (final : Holding Data) : Prop where
  /-- No run of the work sees what an earlier one did. -/
  fresh : ∀ exchange ∈ exchanges, exchange.question = .work →
    view exchange.before = ⟨initial, some initial⟩
  /-- A result is that of the last run of the work, whose staged copy is what is published. -/
  published : ∀ result, outcome = .ok result → final.staged = none ∧
    ∃ earlier before after later,
      exchanges = earlier ++ ⟨before, .work, .ok result, after⟩ :: later ∧
      (∀ exchange ∈ later, exchange.question ≠ .work) ∧
      view before = ⟨initial, some initial⟩ ∧ (view after).staged = some final.committed
  /-- After a failure nothing has changed, if the rollbacks that were asked for were granted. -/
  kept : ∀ failure, outcome = .error failure →
    (∀ before answer after, ⟨before, .rollback, answer, after⟩ ∈ exchanges → answer = .ok true) →
    final = ⟨initial, none⟩

section Running

variable {policy : RetryPolicy} (driver : TransactionalDriver Result Data State) {initial : Data}

/-- A dialogue that is atomic when it is conducted from a state. -/
def AtomicFrom (initial : Data) (dialogue : Dialogue (interface Result) (Except Failure Result))
    (state : State) : Prop :=
  let conducted := dialogue.conduct driver.respondent state
  Atomic driver.view initial (dialogue.transcript driver.respondent state) conducted.1
    (driver.view conducted.2)

variable {driver} {state after : State}

theorem AtomicFrom.done {failure : Failure} (kept : driver.view state = ⟨initial, none⟩) :
    AtomicFrom driver initial (.done (.error failure)) state where
  fresh := by simp [Dialogue.transcript]
  published := by simp [Dialogue.conduct]
  kept := fun _ _ _ => kept

/-- A question before an atomic rest keeps it atomic, if it is not for the work or the work
starts afresh. -/
theorem AtomicFrom.ask {question : Question} {answer : Answer Result question}
    {next : Answer Result question → Dialogue (interface Result) (Except Failure Result)}
    (replied : driver.respondent.answer question state = (answer, after))
    (starts : question = .work → driver.view state = ⟨initial, some initial⟩)
    (rest : AtomicFrom driver initial (next answer) after) :
    AtomicFrom driver initial (.ask question next) state := by
  simp only [AtomicFrom, Dialogue.transcript, Dialogue.conduct, replied] at rest ⊢
  refine ⟨?_, ?_, ?_⟩
  · intro exchange member isWork
    rcases List.mem_cons.mp member with rfl | inRest
    · exact starts isWork
    · exact rest.fresh exchange inRest isWork
  · intro result succeeded
    obtain ⟨closed, earlier, before, after, later, same, last⟩ := rest.published result succeeded
    exact ⟨closed, _ :: earlier, before, after, later, congrArg _ same, last⟩
  · intro failure failed granted
    refine rest.kept failure failed ?_
    intro before answer after member
    exact granted before answer after (List.mem_cons_of_mem _ member)

theorem AtomicFrom.note {event : Event}
    {next : Dialogue (interface Result) (Except Failure Result)}
    (rest : AtomicFrom driver initial next (driver.respondent.note event state)) :
    AtomicFrom driver initial (.note event next) state :=
  rest

/-- Where a rollback is not granted, nothing is claimed of what is left. -/
theorem AtomicFrom.unrolled {answer : Except Failure Bool} {failure : Failure}
    {next : Except Failure Bool → Dialogue (interface Result) (Except Failure Result)}
    (replied : driver.respondent.answer .rollback state = (answer, after))
    (denied : answer ≠ .ok true) (ends : next answer = .done (.error failure)) :
    AtomicFrom driver initial (.ask .rollback next) state := by
  simp only [AtomicFrom, Dialogue.transcript, Dialogue.conduct, replied, ends]
  refine ⟨?_, by simp, ?_⟩
  · simp
  · intro _ _ granted
    exact absurd (granted state answer after (List.mem_cons_self ..)) denied

/-- After a setback everything is undone, or the rollback is not granted. -/
theorem atomicFrom_giveUp {remaining : Nat} (attempt : Nat) (failure : Failure)
    (unpublished : (driver.view state).committed = initial)
    (later : ∀ state, driver.view state = ⟨initial, none⟩ →
      AtomicFrom driver initial (runFrom policy remaining (attempt + 1)) state) :
    AtomicFrom driver initial (giveUp policy remaining attempt failure) state := by
  rcases replied : driver.respondent.answer .rollback state with ⟨answer, after⟩
  rcases answer with rollback | _ | _
  · exact .unrolled replied (by simp) rfl
  · exact .unrolled replied (by simp) rfl
  · have undone := driver.rollback_granted replied
    rw [unpublished] at undone
    refine .ask replied (by simp) ?_
    show AtomicFrom driver initial (if _ then _ else _) after
    split
    · exact .done undone
    · refine .note (.ask rfl (by simp) (later _ ?_))
      rw [driver.pause, driver.note, undone]

/-- A granted commit publishes the staged copy of the work before it. -/
theorem AtomicFrom.committed {result : Result} {worked : State} {copy : Data} {event : Event}
    {first : Except Failure Result → Dialogue (interface Result) (Except Failure Result)}
    {next : Except Failure Bool → Dialogue (interface Result) (Except Failure Result)}
    (fresh : driver.view state = ⟨initial, some initial⟩)
    (replied : driver.respondent.answer .work state = (.ok result, worked))
    (goesOn : first (.ok result) = .ask .commit next)
    (changed : driver.view worked = ⟨initial, some copy⟩)
    (granted : driver.respondent.answer .commit worked = (.ok true, after))
    (ends : next (.ok true) = .note event (.done (.ok result))) :
    AtomicFrom driver initial (.ask .work first) state := by
  have published := driver.commit_granted granted (congrArg Holding.staged changed)
  simp only [AtomicFrom, Dialogue.transcript, Dialogue.conduct, replied, goesOn, granted, ends,
    driver.note, published]
  refine ⟨?_, ?_, by simp⟩
  · intro exchange member isWork
    rcases List.mem_cons.mp member with rfl | inRest
    · exact fresh
    · rcases List.mem_singleton.mp inRest with rfl
      cases isWork
  · intro _ succeeded
    cases succeeded
    refine ⟨rfl, [], state, worked, _, rfl, ?_, fresh, congrArg Holding.staged changed⟩
    intro exchange member isWork
    rcases List.mem_singleton.mp member with rfl
    cases isWork

/-- The work on a fresh copy, its commit and what follows are atomic. -/
theorem atomicFrom_settle {remaining : Nat} (attempt : Nat)
    (fresh : driver.view state = ⟨initial, some initial⟩)
    (later : ∀ state, driver.view state = ⟨initial, none⟩ →
      AtomicFrom driver initial (runFrom policy remaining (attempt + 1)) state) :
    AtomicFrom driver initial (settle.bind (conclude policy remaining attempt)) state := by
  rcases replied : driver.respondent.answer .work state with ⟨outcome, worked⟩
  obtain ⟨copy, changed⟩ := driver.work_staged replied (congrArg Holding.staged fresh)
  rw [fresh] at changed
  cases outcome with
  | error failure =>
    have unpublished := congrArg Holding.committed changed
    exact .ask replied (fun _ => fresh) (atomicFrom_giveUp attempt failure unpublished later)
  | ok result =>
    rcases settled : driver.respondent.answer .commit worked with ⟨answer, after⟩
    by_cases granted : answer = .ok true
    · subst granted
      exact .committed fresh replied rfl changed settled rfl
    · have unpublished := (driver.commit_denied settled granted).trans
        (congrArg Holding.committed changed)
      refine .ask replied (fun _ => fresh) (.ask settled (by simp) ?_)
      rcases answer with failure | _ | _
      · exact atomicFrom_giveUp attempt failure unpublished later
      · exact atomicFrom_giveUp attempt _ unpublished later
      · exact absurd rfl granted

theorem atomicFrom_runFrom {remaining : Nat} (attempt : Nat)
    (closed : driver.view state = ⟨initial, none⟩) :
    AtomicFrom driver initial (runFrom policy remaining attempt) state := by
  induction remaining generalizing attempt state with
  | zero => exact .done closed
  | succ remaining ih =>
    rw [runFrom_succ]
    rcases replied : driver.respondent.answer .start state with ⟨answer, opened⟩
    refine .ask replied (by simp) ?_
    rcases answer with failure | _ | _
    · exact .done ((driver.start_denied replied nofun).trans closed)
    · exact .done ((driver.start_denied replied nofun).trans closed)
    · have fresh := driver.start_granted replied (congrArg Holding.staged closed)
      rw [closed] at fresh
      exact atomicFrom_settle attempt fresh fun _ closed => ih (attempt + 1) closed

end Running

/-- A run that starts with no transaction open publishes the effect of the one run of the work
whose result it returns, or after a failure leaves the data as they were; and every run of the
work starts from the data published before. -/
theorem run_atomic (driver : TransactionalDriver Result Data State) (policy : RetryPolicy)
    (state : State) (closed : (driver.view state).staged = none) :
    let conducted := (run policy).conduct driver.respondent state
    Atomic driver.view (driver.view state).committed
      ((run policy).transcript driver.respondent state) conducted.1 (driver.view conducted.2) := by
  refine atomicFrom_runFrom 1 ?_
  rw [← closed]

/-- A database that holds a number, with work that adds one to it, and with prepared answers to
its commits. -/
def counter : TransactionalDriver Nat Nat (Holding Nat × List (Except Failure Bool)) where
  respondent :=
    { answer
        | .start, (holding, commits) =>
          (.ok true, ⟨holding.committed, some holding.committed⟩, commits)
        | .work, (holding, commits) =>
          (.ok (holding.staged.getD 0 + 1), ⟨holding.committed, holding.staged.map (· + 1)⟩,
            commits)
        | .commit, (holding, commits) =>
          match commits with
          | .error failure :: rest => (.error failure, holding, rest)
          | .ok false :: rest => (.ok false, holding, rest)
          | _ => (.ok true, ⟨holding.staged.getD holding.committed, none⟩, commits.tail)
        | .rollback, (holding, commits) => (.ok true, ⟨holding.committed, none⟩, commits)
        | .pause _, state => ((), state)
      note _ state := state }
  view := Prod.fst
  start_granted := by
    rintro ⟨holding, commits⟩ _ ⟨rfl, rfl⟩ _
    rfl
  start_denied := by
    rintro ⟨holding, commits⟩ _ _ ⟨rfl, rfl⟩ denied
    exact absurd rfl denied
  work_staged := by
    rintro ⟨⟨committed, _⟩, commits⟩ copy _ _ ⟨rfl, rfl⟩ ⟨rfl⟩
    exact ⟨copy + 1, rfl⟩
  commit_granted := by
    rintro ⟨⟨committed, _⟩, _ | ⟨_ | _ | _, commits⟩⟩ copy _ replied ⟨rfl⟩ <;> cases replied <;> rfl
  commit_denied := by
    rintro ⟨holding, _ | ⟨_ | _ | _, commits⟩⟩ _ _ ⟨rfl, rfl⟩ denied
    · exact absurd rfl denied
    · rfl
    · rfl
    · exact absurd rfl denied
  rollback_granted := by
    rintro ⟨holding, commits⟩ _ ⟨rfl, rfl⟩
    rfl
  pause _ _ := rfl
  note _ _ := rfl

/-- Of two runs of the work only the second one counts, since the first commit is lost. -/
theorem run_atomic_after_lost_commit :
    let lost : Failure := .driver ⟨.execute, some "40001", "could not serialize access"⟩
    let start : Holding Nat × List (Except Failure Bool) := (⟨5, none⟩, [.error lost])
    let conducted := (run .standard).conduct counter.respondent start
    (counter.view start).staged = none ∧ conducted.1 = .ok 6 ∧ conducted.2.1 = ⟨6, none⟩ ∧
      Atomic counter.view 5 ((run .standard).transcript counter.respondent start) conducted.1
        (counter.view conducted.2) := by
  intro lost start conducted
  exact ⟨rfl, rfl, rfl, run_atomic counter .standard start rfl⟩

end SqlWright.Transaction
