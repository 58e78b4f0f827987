import SqlWright.Proofs.Transaction.Protocol
/-! What a transaction run comes to and after how many attempts. The run goes on where an attempt
was undone after a transient failure and others are left, and returns what its last attempt
gives. -/
namespace SqlWright

/-- A text stands somewhere in another one. -/
def Holds (text part : String) : Prop := ∃ before after, text = before ++ part ++ after

namespace Failure

theorem message_rollbackRefused (failure : Failure) : (rollbackRefused failure).message =
    failure.message ++ " (rollback failed: ROLLBACK was refused)" := rfl

theorem message_rollbackFailed (failure rollback : Failure) :
    (rollbackFailed failure rollback).message =
      failure.message ++ " (rollback failed: " ++ rollback.message ++ ")" := rfl

end Failure

section Classification

variable {policy : RetryPolicy} {failure : Failure} {text part : String}

private theorem occursIn_iff_isInfix {needle text : List Char} :
    occursIn needle text = true ↔ needle <:+: text := by
  induction text with
  | nil => simp [occursIn]
  | cons c rest ih =>
    rw [occursIn, Bool.or_eq_true, ih, List.isPrefixOf_iff_prefix, List.infix_cons_iff]

theorem occursIn_iff_holds : occursIn part.toList text.toList = true ↔ Holds text part := by
  rw [occursIn_iff_isInfix]
  constructor
  · rintro ⟨before, after, same⟩
    refine ⟨String.ofList before, String.ofList after, String.toList_inj.1 ?_⟩
    simp [← same]
  · rintro ⟨before, after, rfl⟩
    rw [String.toList_append, String.toList_append]
    exact List.infix_append ..

/-- A failure of the driver that carries one of the codes, or whose message holds the retry message
if there is one. -/
def RetryPolicy.Transient (policy : RetryPolicy) (failure : Failure) : Prop :=
  ∃ fault, failure = .driver fault ∧
    ((∃ code ∈ policy.retryCodes, fault.code = some code) ∨
      policy.retryMessage ≠ "" ∧ Holds fault.message policy.retryMessage)

theorem RetryPolicy.classify_eq_fatal_iff :
    policy.classify failure = .fatal ↔ ¬policy.Transient failure := by
  cases failure with
  | driver fault =>
    obtain ⟨stage, code, message⟩ := fault
    cases code <;> simp [classify, Transient, occursIn_iff_holds]
  | _ => simp [classify, Transient]

end Classification

namespace Transaction

variable {Result State : Type} {policy : RetryPolicy}

namespace Attempt

/-- The transaction is opened, and it is undone if that is asked for. -/
def Granted : Attempt Result → Prop
  | .unopened .. => False
  | .committed _ => True
  | .givenUp _ rollback => rollback = .ok true

/-- The attempt succeeds, or fails in a way that is not transient. -/
def Decides (policy : RetryPolicy) : Attempt Result → Prop
  | .unopened .. => False
  | .committed _ => True
  | .givenUp setback _ => ¬policy.Transient setback.failure

/-- The attempt is undone after a transient failure. -/
def IsRetryable (policy : RetryPolicy) (attempt : Attempt Result) : Prop :=
  ∃ setback, attempt = .givenUp setback (.ok true) ∧ policy.Transient setback.failure

theorem isRetryable_iff {attempt : Attempt Result} (granted : attempt.Granted) :
    attempt.IsRetryable policy ↔ ¬attempt.Decides policy := by
  cases attempt with
  | unopened => exact granted.elim
  | committed => simp [IsRetryable, Decides]
  | givenUp setback rollback =>
    obtain rfl : rollback = .ok true := granted
    simp [IsRetryable, Decides]

theorem count_start (attempt : Attempt Result) :
    (attempt.calls.map Call.question).count .start = 1 := by
  rcases attempt with _ | _ | (_ | _) <;> rfl

/-- The text shown for a rollback that was not granted. -/
def rollbackText : Except Failure Bool → String
  | .error failure => failure.message
  | .ok _ => "ROLLBACK was refused"

/-- Where a rollback is not granted, the failure that is returned tells of both. -/
theorem exists_outcome_of_unrolled (setback : Setback Result) {rollback : Except Failure Bool}
    (denied : rollback ≠ .ok true) :
    ∃ failure, (Attempt.givenUp setback rollback).outcome = .error failure ∧
      Holds failure.message setback.failure.message ∧
      Holds failure.message (rollbackText rollback) := by
  rcases rollback with reason | _ | _
  · refine ⟨_, rfl, ⟨"", " (rollback failed: " ++ reason.message ++ ")", ?_⟩,
      setback.failure.message ++ " (rollback failed: ", ")", rfl⟩
    rw [Failure.message_rollbackFailed, String.empty_append, String.append_assoc,
      String.append_assoc, String.append_assoc]
  · refine ⟨_, rfl, ⟨"", " (rollback failed: ROLLBACK was refused)", ?_⟩,
      setback.failure.message ++ " (rollback failed: ", ")", ?_⟩
    · rw [Failure.message_rollbackRefused, String.empty_append]
    · rw [Failure.message_rollbackRefused, String.append_assoc, String.append_assoc]
      rfl
  · exact absurd rfl denied

end Attempt

section Trial

/-- Roll back after a setback. -/
def undo (setback : Setback Result) : Dialogue (interface Result) (Attempt Result) :=
  .ask .rollback fun answer => .done (.givenUp setback answer)

/-- One attempt by itself. -/
def trial : Dialogue (interface Result) (Attempt Result) :=
  .ask .start fun
    | .error failure => .done (.unopened (.error failure) (by simp))
    | .ok false => .done (.unopened (.ok false) (by simp))
    | .ok true => .ask .work fun
      | .error failure => undo (.work failure)
      | .ok result => .ask .commit fun
        | .ok true => .done (.committed result)
        | .ok false => undo (.commit result (.ok false) (by simp))
        | .error failure => undo (.commit result (.error failure) (by simp))

/-- What a run does after an attempt of this number, with so many attempts left. -/
def follow (policy : RetryPolicy) (remaining number : Nat) :
    Attempt Result → Dialogue (interface Result) (Except Failure Result)
  | .committed result => .note (.committed number) (.done (.ok result))
  | .givenUp setback (.ok true) =>
    if policy.classify setback.failure = .fatal ∨ remaining = 0 then .done (.error setback.failure)
    else
      .note (.retrying number policy.attempts policy.delay setback.failure)
        (.ask (.pause policy.delay) fun _ => runFrom policy remaining (number + 1))
  | attempt => .done attempt.outcome

variable {respondent : Respondent (interface Result) State}

private theorem undo_bind (remaining number : Nat) (setback : Setback Result) :
    (undo setback).bind (follow policy remaining number) =
      giveUp policy remaining number setback.failure := by
  refine congrArg (@Dialogue.ask (interface Result) _ .rollback) (funext fun answer => ?_)
  rcases answer with rollback | _ | _ <;> rfl

/-- A run makes an attempt and goes on from it. -/
theorem runFrom_eq_bind (remaining number : Nat) :
    (runFrom policy (remaining + 1) number : Dialogue (interface Result) _) =
      trial.bind (follow policy remaining number) := by
  rw [runFrom_succ]
  refine congrArg (@Dialogue.ask (interface Result) _ .start) (funext fun answer => ?_)
  rcases answer with failure | _ | _
  · rfl
  · rfl
  refine congrArg (@Dialogue.ask (interface Result) _ .work) (funext fun outcome => ?_)
  rcases outcome with failure | result
  · exact (undo_bind remaining number (.work failure)).symm
  refine congrArg (@Dialogue.ask (interface Result) _ .commit) (funext fun answer => ?_)
  rcases answer with failure | _ | _
  · exact (undo_bind remaining number (.commit result (.error failure) _)).symm
  · exact (undo_bind remaining number (.commit result (.ok false) _)).symm
  · rfl

theorem callsOf_trial (state : State) :
    callsOf trial respondent state = (trial.conduct respondent state).1.calls := by
  rcases started : respondent.answer .start state with ⟨failure | _ | _, opened⟩
  · simp only [callsOf, trial, Dialogue.transcript, Dialogue.conduct, started]
    rfl
  · simp only [callsOf, trial, Dialogue.transcript, Dialogue.conduct, started]
    rfl
  rcases worked : respondent.answer .work opened with ⟨failure | result, left⟩
  · simp only [callsOf, trial, undo, Dialogue.transcript, Dialogue.conduct, started, worked]
    rfl
  rcases committed : respondent.answer .commit left with ⟨failure | _ | _, closed⟩ <;>
  · simp only [callsOf, trial, undo, Dialogue.transcript, Dialogue.conduct, started, worked,
      committed]
    rfl

/-- A run ends with an attempt that is not undone after a transient failure, and with any when none
is left. -/
theorem follow_of_last {remaining : Nat} (number : Nat) {attempt : Attempt Result} (state : State)
    (last : remaining ≠ 0 → ¬attempt.IsRetryable policy) :
    callsOf (follow policy remaining number attempt) respondent state = [] ∧
      ((follow policy remaining number attempt).conduct respondent state).1 = attempt.outcome := by
  rcases attempt with _ | _ | ⟨setback, _ | _ | _⟩
  · exact ⟨rfl, rfl⟩
  · exact ⟨rfl, rfl⟩
  · exact ⟨rfl, rfl⟩
  · exact ⟨rfl, rfl⟩
  · have final : policy.classify setback.failure = .fatal ∨ remaining = 0 := by
      rw [RetryPolicy.classify_eq_fatal_iff, or_iff_not_imp_right]
      exact fun left transient => last left ⟨setback, rfl, transient⟩
    simp only [follow, final, if_true]
    exact ⟨rfl, rfl⟩

end Trial

section Sequence

variable (policy : RetryPolicy) (respondent : Respondent (interface Result) State)

/-- The state in which the attempt after this one begins, if there is one. -/
def resumed (number : Nat) (state : State) : State :=
  match trial.conduct respondent state with
  | (.givenUp setback _, after) =>
    let noted := respondent.note
      (.retrying number policy.attempts policy.delay setback.failure) after
    (respondent.answer (.pause policy.delay) noted).2
  | (_, after) => after

/-- The attempts of a run that would never end, from the one of some number on: what the driver and
the work answer to each in its turn. -/
def attemptAt (number : Nat) (state : State) : Nat → Attempt Result
  | 0 => (trial.conduct respondent state).1
  | index + 1 => attemptAt (number + 1) (resumed policy respondent number state) index

end Sequence

section Ending

variable {respondent : Respondent (interface Result) State} {remaining last : Nat}
  {attempt : Nat → Attempt Result} {calls : List (Call Result)} {outcome : Except Failure Result}

private theorem count_start_rounds (delay : Nat) :
    (((List.range last).flatMap fun index => (attempt index).calls ++ [.pause delay]).map
      Call.question).count .start = last := by
  induction last with
  | zero => rfl
  | succ last ih =>
    rw [List.range_succ, List.flatMap_append, List.map_append, List.count_append, ih]
    simp [Attempt.count_start, Call.question]

/-- A run with so many attempts ends with the one at this index: all before it are retried, and it
is not unless it is the last one left. -/
structure EndsAt (policy : RetryPolicy) (remaining : Nat) (attempt : Nat → Attempt Result)
    (calls : List (Call Result)) (outcome : Except Failure Result) (last : Nat) : Prop where
  within : last < remaining
  retryable : ∀ index < last, (attempt index).IsRetryable policy
  final : last + 1 < remaining → ¬(attempt last).IsRetryable policy
  calls : calls = (List.range last).flatMap
    (fun index => (attempt index).calls ++ [.pause policy.delay]) ++ (attempt last).calls
  outcome : outcome = (attempt last).outcome

namespace EndsAt

theorem first (final : remaining ≠ 0 → ¬(attempt 0).IsRetryable policy) :
    EndsAt policy (remaining + 1) attempt (attempt 0).calls (attempt 0).outcome 0 where
  within := Nat.succ_pos remaining
  retryable := fun _ before => absurd before (Nat.not_lt_zero _)
  final more := final (by omega)
  calls := rfl
  outcome := rfl

theorem later (again : (attempt 0).IsRetryable policy)
    (ends : EndsAt policy remaining (fun index => attempt (index + 1)) calls outcome last) :
    EndsAt policy (remaining + 1) attempt
      ((attempt 0).calls ++ .pause policy.delay :: calls) outcome (last + 1) where
  within := Nat.succ_lt_succ ends.within
  retryable
    | 0, _ => again
    | index + 1, before => ends.retryable index (Nat.lt_of_succ_lt_succ before)
  final more := ends.final (Nat.lt_of_succ_lt_succ more)
  calls := by
    rw [ends.calls, List.range_succ_eq_map, List.flatMap_cons, List.flatMap_map]
    simp
  outcome := ends.outcome

variable {index : Nat} (ends : EndsAt policy remaining attempt calls outcome last)

include ends

theorem count_start : (calls.map Call.question).count .start = last + 1 := by
  rw [ends.calls, List.map_append, List.count_append, count_start_rounds, Attempt.count_start]

/-- An attempt that was made is followed by another just if it is retryable and one is left. -/
theorem before_last_iff (made : index ≤ last) :
    index < last ↔ (attempt index).IsRetryable policy ∧ index + 1 < remaining := by
  have within := ends.within
  constructor
  · exact fun before => ⟨ends.retryable index before, by omega⟩
  · rintro ⟨retryable, left⟩
    refine Nat.lt_of_le_of_ne made fun isLast => ?_
    subst isLast
    exact ends.final left retryable

variable (granted : ∀ index ≤ last, (attempt index).Granted)

include granted

theorem eq_of_undecided (undecided : ¬(attempt last).Decides policy) : last + 1 = remaining := by
  have within := ends.within
  have retryable := (Attempt.isRetryable_iff (granted last (Nat.le_refl _))).2 undecided
  have none := mt ends.final (not_not.2 retryable)
  omega

/-- The number of attempts is that of the first which decides, as far as the policy allows. -/
theorem eq_min (decides : (attempt index).Decides policy)
    (earlier : ∀ before < index, ¬(attempt before).Decides policy) :
    last + 1 = min remaining (index + 1) := by
  have within := ends.within
  rcases Nat.lt_trichotomy last index with past | rfl | before
  -- The run did not come to the attempt that decides, so it used up what the policy allows.
  · have all := ends.eq_of_undecided granted (earlier last past)
    omega
  · omega
  · have notDecided := (Attempt.isRetryable_iff (granted index (Nat.le_of_lt before))).1
      (ends.retryable index before)
    exact absurd decides notDecided

end EndsAt

/-- After a transient failure that was undone the run pauses and goes on. -/
theorem follow_of_retryable (number : Nat) {state : State} (left : remaining ≠ 0)
    (retryable : (trial.conduct respondent state).1.IsRetryable policy) :
    let followed := follow policy remaining number (trial.conduct respondent state).1
    let after := (trial.conduct respondent state).2
    let next := resumed policy respondent number state
    callsOf followed respondent after =
        .pause policy.delay :: callsOf (runFrom policy remaining (number + 1)) respondent next ∧
      (followed.conduct respondent after).1 =
        ((runFrom policy remaining (number + 1)).conduct respondent next).1 := by
  unfold resumed
  generalize trial.conduct respondent state = made at retryable ⊢
  obtain ⟨attempt, after⟩ := made
  obtain ⟨setback, rfl, transient⟩ := retryable
  have goesOn : ¬(policy.classify setback.failure = .fatal ∨ remaining = 0) := by
    rw [RetryPolicy.classify_eq_fatal_iff]
    exact not_or.2 ⟨not_not.2 transient, left⟩
  simp only [follow, goesOn, if_false]
  exact ⟨rfl, rfl⟩

/-- Whoever answers, a run with attempts left ends with one of them. -/
theorem exists_endsAt (left : remaining ≠ 0) (number : Nat) (state : State) :
    ∃ last, EndsAt policy remaining (attemptAt policy respondent number state)
      (callsOf (runFrom policy remaining number) respondent state)
      ((runFrom policy remaining number).conduct respondent state).1 last := by
  -- What follows a retried attempt is a run by itself, from the state in which this one resumes.
  induction remaining generalizing number state with
  | zero => exact absurd rfl left
  | succ remaining ih =>
    rw [runFrom_eq_bind, callsOf_bind, Dialogue.conduct_bind, callsOf_trial]
    by_cases again : remaining ≠ 0 ∧
        (attemptAt policy respondent number state 0).IsRetryable policy
    · obtain ⟨left, retryable⟩ := again
      obtain ⟨last, ends⟩ := ih left (number + 1) (resumed policy respondent number state)
      obtain ⟨calls, outcome⟩ := follow_of_retryable number left retryable
      rw [calls, outcome]
      exact ⟨last + 1, .later retryable ends⟩
    · have final := not_and.1 again
      obtain ⟨calls, outcome⟩ := follow_of_last number (trial.conduct respondent state).2 final
      rw [show (trial.conduct respondent state).1 = attemptAt policy respondent number state 0
        from rfl, calls, outcome, List.append_nil]
      exact ⟨0, .first final⟩

end Ending

/-- Whatever the driver and the work answer, a run makes the attempts up to some last one, with a
pause between two of them, and returns what that one gives. An attempt is followed by another just
if it was undone after a transient failure and the policy allows one more. So where transactions are
opened and undone as asked, the last attempt is the first that succeeds or fails otherwise, unless
the policy ends the run before it. Where a rollback is not granted, the failure tells of both. -/
theorem run_outcome (policy : RetryPolicy) (respondent : Respondent (interface Result) State)
    (state : State) (some : policy.attempts ≠ 0) :
    let attempt := attemptAt policy respondent 1 state
    let calls := callsOf (run policy) respondent state
    let outcome := ((run policy).conduct respondent state).1
    ∃ last < policy.attempts,
      calls = (List.range last).flatMap (fun index =>
          (attempt index).calls ++ [.pause policy.delay]) ++ (attempt last).calls ∧
      (calls.map Call.question).count .start = last + 1 ∧
      outcome = (attempt last).outcome ∧
      (∀ index ≤ last, index < last ↔
        (attempt index).IsRetryable policy ∧ index + 1 < policy.attempts) ∧
      ((∀ index ≤ last, (attempt index).Granted) →
        (∀ index, (attempt index).Decides policy →
          (∀ before < index, ¬(attempt before).Decides policy) →
          last + 1 = min policy.attempts (index + 1)) ∧
        ((∀ index < policy.attempts, ¬(attempt index).Decides policy) →
          last + 1 = policy.attempts)) ∧
      ∀ setback rollback, attempt last = .givenUp setback rollback → rollback ≠ .ok true →
        ∃ failure, outcome = .error failure ∧ Holds failure.message setback.failure.message ∧
          Holds failure.message (Attempt.rollbackText rollback) := by
  intro attempt calls outcome
  obtain ⟨last, ends⟩ : ∃ last, EndsAt policy policy.attempts attempt calls outcome last :=
    exists_endsAt some 1 state
  refine ⟨last, ends.within, ends.calls, ends.count_start, ends.outcome,
    fun index made => ends.before_last_iff made, fun granted => ⟨?_, ?_⟩, ?_⟩
  · exact fun index decides earlier => ends.eq_min granted decides earlier
  · exact fun undecided => ends.eq_of_undecided granted (undecided last ends.within)
  · intro setback rollback isLast denied
    have returned : outcome = (attempt last).outcome := ends.outcome
    rw [returned, isLast]
    exact Attempt.exists_outcome_of_unrolled setback denied

/-- A commit that fails transiently costs one attempt, and the work of the second is returned. -/
theorem run_outcome_after_lost_commit :
    let policy : RetryPolicy := ⟨3, 5, ["40001"], ""⟩
    let lost : Failure := .driver ⟨.execute, some "40001", "could not serialize access"⟩
    let stage : Stage := { driver := { commits := [.error lost] } }
    let respondent := Stage.transactionRespondent 7
    policy.attempts ≠ 0 ∧
      ((callsOf (run policy) respondent ([], stage)).map Call.question).count .start =
        min policy.attempts (1 + 1) ∧
      ((run policy).conduct respondent ([], stage)).1 = .ok 7 := by
  intro policy lost stage respondent
  have some : policy.attempts ≠ 0 := by decide
  obtain ⟨last, within, -, starts, returned, -, counted, -⟩ :=
    run_outcome policy respondent ([], stage) some
  have granted : ∀ index < 3, (attemptAt policy respondent 1 ([], stage) index).Granted
    | 0, _ => rfl
    | 1, _ => trivial
    | 2, _ => trivial
  have transient : policy.Transient lost := ⟨_, rfl, .inl ⟨"40001", by simp [policy], rfl⟩⟩
  have two : last + 1 = min policy.attempts (1 + 1) := by
    refine (counted fun index made => granted index (Nat.lt_of_le_of_lt made within)).1 1 trivial ?_
    intro before early decides
    obtain rfl : before = 0 := Nat.lt_one_iff.1 early
    exact decides transient
  have second : last = 1 := Nat.succ.inj two
  subst second
  exact ⟨some, starts, returned⟩

end Transaction

end SqlWright
