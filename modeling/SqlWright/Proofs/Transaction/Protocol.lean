import SqlWright.Rehearsal.Stage
import SqlWright.Proofs.Dialogue.Transcript
import Mathlib.Computability.RegularExpressions
/-! The calls of a transaction run, whatever the driver and the work answer: attempt after
attempt, each closed before the next one starts, and no more of them than the policy grants. -/
namespace SqlWright.Transaction

variable {Result State : Type}

/-- A call with its answer. -/
inductive Call (Result : Type) where
  | start (answer : Except Failure Bool)
  | work (outcome : Except Failure Result)
  | commit (answer : Except Failure Bool)
  | rollback (answer : Except Failure Bool)
  | pause (milliseconds : Nat)

namespace Call

def question : Call Result → Question
  | .start _ => .start
  | .work _ => .work
  | .commit _ => .commit
  | .rollback _ => .rollback
  | .pause milliseconds => .pause milliseconds

def ofAnswer : (question : Question) → Answer Result question → Call Result
  | .start, answer => .start answer
  | .work, outcome => .work outcome
  | .commit, answer => .commit answer
  | .rollback, answer => .rollback answer
  | .pause milliseconds, _ => .pause milliseconds

end Call

/-- The calls of a dialogue with a driver and its work, in order. -/
def callsOf {Outcome : Type} (dialogue : Dialogue (interface Result) Outcome)
    (respondent : Respondent (interface Result) State) (state : State) : List (Call Result) :=
  (dialogue.transcript respondent state).map fun exchange =>
    .ofAnswer exchange.question exchange.answer

theorem callsOf_bind {Outcome Other : Type} (first : Dialogue (interface Result) Outcome)
    (next : Outcome → Dialogue (interface Result) Other)
    (respondent : Respondent (interface Result) State) (state : State) :
    callsOf (first.bind next) respondent state =
      callsOf first respondent state ++
        callsOf (next (first.conduct respondent state).1) respondent
          (first.conduct respondent state).2 := by
  simp only [callsOf, Dialogue.transcript_bind, List.map_append]

/-- The failure of a control command that was not granted. -/
def denial (command : String) : Except Failure Bool → Failure
  | .error failure => failure
  | .ok _ => refused command

/-- Why an open transaction is given up. -/
inductive Setback (Result : Type) where
  | work (failure : Failure)
  | commit (result : Result) (answer : Except Failure Bool) (denied : answer ≠ .ok true)

namespace Setback

/-- The calls up to the setback. -/
def calls : Setback Result → List (Call Result)
  | .work failure => [.start (.ok true), .work (.error failure)]
  | .commit result answer _ => [.start (.ok true), .work (.ok result), .commit answer]

def failure : Setback Result → Failure
  | .work failure => failure
  | .commit _ answer _ => denial "COMMIT" answer

end Setback

/-- How one attempt went, by the answers it was given. -/
inductive Attempt (Result : Type) where
  /-- No transaction was opened. -/
  | unopened (answer : Except Failure Bool) (denied : answer ≠ .ok true)
  | committed (result : Result)
  | givenUp (setback : Setback Result) (rollback : Except Failure Bool)

namespace Attempt

def calls : Attempt Result → List (Call Result)
  | .unopened answer _ => [.start answer]
  | .committed result => [.start (.ok true), .work (.ok result), .commit (.ok true)]
  | .givenUp setback rollback => setback.calls ++ [.rollback rollback]

/-- What a run returns that ends with this attempt. -/
def outcome : Attempt Result → Except Failure Result
  | .unopened answer _ => .error (denial "BEGIN" answer)
  | .committed result => .ok result
  | .givenUp setback (.ok true) => .error setback.failure
  | .givenUp setback (.ok false) => .error (.rollbackRefused setback.failure)
  | .givenUp setback (.error rollback) => .error (.rollbackFailed setback.failure rollback)

end Attempt

/-- The course of a run with so many attempts left: its calls and its outcome. Another attempt
follows only where one was rolled back as asked after a transient failure. -/
inductive Course (policy : RetryPolicy) :
    Nat → List (Call Result) → Except Failure Result → Prop where
  | last {remaining : Nat} (attempt : Attempt Result)
      (final : ∀ setback, attempt = .givenUp setback (.ok true) →
        policy.classify setback.failure = .fatal ∨ remaining = 0) :
      Course policy (remaining + 1) attempt.calls attempt.outcome
  | retried {remaining : Nat} {calls : List (Call Result)} {outcome : Except Failure Result}
      (setback : Setback Result) (transient : policy.classify setback.failure ≠ .fatal)
      (later : Course policy remaining calls outcome) :
      Course policy (remaining + 1)
        (setback.calls ++ .rollback (.ok true) :: .pause policy.delay :: calls) outcome

section Running

variable {policy : RetryPolicy} {respondent : Respondent (interface Result) State}

/-- What a run does after a failure, with so many attempts left besides this one. -/
def giveUp (policy : RetryPolicy) (remaining attempt : Nat) (failure : Failure) :
    Dialogue (interface Result) (Except Failure Result) :=
  .ask .rollback fun
    | .error rollback => .done (.error (.rollbackFailed failure rollback))
    | .ok false => .done (.error (.rollbackRefused failure))
    | .ok true =>
      if policy.classify failure = .fatal ∨ remaining = 0 then .done (.error failure)
      else
        .note (.retrying attempt policy.attempts policy.delay failure)
          (.ask (.pause policy.delay) fun _ => runFrom policy remaining (attempt + 1))

/-- What a run does with the outcome of the work and its commit. -/
def conclude (policy : RetryPolicy) (remaining attempt : Nat) :
    Except Failure Result → Dialogue (interface Result) (Except Failure Result)
  | .ok result => .note (.committed attempt) (.done (.ok result))
  | .error failure => giveUp policy remaining attempt failure

/-- What a run does with the answer to its BEGIN. -/
def proceed (policy : RetryPolicy) (remaining attempt : Nat) :
    Except Failure Bool → Dialogue (interface Result) (Except Failure Result)
  | .error failure => .done (.error failure)
  | .ok false => .done (.error (refused "BEGIN"))
  | .ok true => settle.bind (conclude policy remaining attempt)

theorem runFrom_succ (remaining attempt : Nat) :
    (runFrom policy (remaining + 1) attempt : Dialogue (interface Result) _) =
      .ask .start (proceed policy remaining attempt) := by
  unfold runFrom
  congr 1
  funext answer
  rcases answer with failure | _ | _ <;> rfl

/-- The work and its commit end in a published result or in a setback. -/
theorem settle_cases (respondent : Respondent (interface Result) State) (state : State) :
    (∃ result, (settle.conduct respondent state).1 = .ok result ∧
      callsOf settle respondent state = [.work (.ok result), .commit (.ok true)]) ∨
    ∃ setback : Setback Result, (settle.conduct respondent state).1 = .error setback.failure ∧
      .start (.ok true) :: callsOf settle respondent state = setback.calls := by
  rcases worked : respondent.answer .work state with ⟨outcome, afterWork⟩
  cases outcome with
  | error failure =>
    refine .inr ⟨.work failure, ?_, ?_⟩
    · simp [settle, Dialogue.conduct, worked, Setback.failure]
    · simp [settle, callsOf, Dialogue.transcript, worked, Setback.calls, Call.ofAnswer]
  | ok result =>
    rcases committed : respondent.answer .commit afterWork with ⟨answer, afterCommit⟩
    have called : callsOf settle respondent state = [.work (.ok result), .commit answer] := by
      cases answer with
      | error failure =>
        simp [settle, callsOf, Dialogue.transcript, worked, committed, Call.ofAnswer]
      | ok granted =>
        cases granted <;>
          simp [settle, callsOf, Dialogue.transcript, worked, committed, Call.ofAnswer]
    rw [called]
    rcases answer with failure | _ | _
    · refine .inr ⟨.commit result (.error failure) (by simp), ?_, rfl⟩
      simp [settle, Dialogue.conduct, worked, committed, Setback.failure, denial]
    · refine .inr ⟨.commit result (.ok false) (by simp), ?_, rfl⟩
      simp [settle, Dialogue.conduct, worked, committed, Setback.failure, denial]
    · exact .inl ⟨result, by simp [settle, Dialogue.conduct, worked, committed], rfl⟩

/-- Giving up after a setback ends the run, or leads to the course of the attempts left. -/
theorem course_giveUp {remaining : Nat} (setback : Setback Result) (attempt : Nat) (state : State)
    (later : ∀ state, remaining ≠ 0 →
      Course policy remaining (callsOf (runFrom policy remaining (attempt + 1)) respondent state)
        ((runFrom policy remaining (attempt + 1)).conduct respondent state).1) :
    Course policy (remaining + 1)
      (setback.calls ++ callsOf (giveUp policy remaining attempt setback.failure) respondent state)
      ((giveUp policy remaining attempt setback.failure).conduct respondent state).1 := by
  rcases replied : respondent.answer .rollback state with ⟨answer, after⟩
  rcases answer with rollback | _ | _
  · simp only [giveUp, callsOf, Dialogue.transcript, Dialogue.conduct, replied]
    exact .last (.givenUp setback (.error rollback)) (by simp)
  · simp only [giveUp, callsOf, Dialogue.transcript, Dialogue.conduct, replied]
    exact .last (.givenUp setback (.ok false)) (by simp)
  · simp only [giveUp, callsOf, Dialogue.transcript, Dialogue.conduct, replied]
    split
    · next final =>
      refine .last (.givenUp setback (.ok true)) ?_
      rintro _ ⟨rfl⟩
      exact final
    · next again =>
      obtain ⟨transient, left⟩ := not_or.mp again
      exact .retried setback transient (later _ left)

/-- An opened attempt ends the run, or leads to the course of the attempts left. -/
theorem course_settle {remaining : Nat} (attempt : Nat) (state : State)
    (later : ∀ state, remaining ≠ 0 →
      Course policy remaining (callsOf (runFrom policy remaining (attempt + 1)) respondent state)
        ((runFrom policy remaining (attempt + 1)).conduct respondent state).1) :
    Course policy (remaining + 1)
      (.start (.ok true) :: callsOf (settle.bind (conclude policy remaining attempt)) respondent
        state)
      ((settle.bind (conclude policy remaining attempt)).conduct respondent state).1 := by
  rw [callsOf_bind, Dialogue.conduct_bind, ← List.cons_append]
  rcases settle_cases respondent state with ⟨result, published, calls⟩ | ⟨setback, lost, calls⟩
  · rw [published, calls]
    exact .last (.committed result) (by simp)
  · rw [lost, calls]
    exact course_giveUp setback attempt _ later

theorem course_runFrom {remaining : Nat} (left : remaining ≠ 0) (attempt : Nat) (state : State) :
    Course policy remaining (callsOf (runFrom policy remaining attempt) respondent state)
      ((runFrom policy remaining attempt).conduct respondent state).1 := by
  induction remaining generalizing attempt state with
  | zero => exact absurd rfl left
  | succ remaining ih =>
    rw [runFrom_succ]
    rcases replied : respondent.answer .start state with ⟨answer, opened⟩
    simp only [callsOf, Dialogue.transcript, Dialogue.conduct, replied, List.map_cons,
      Call.ofAnswer]
    rcases answer with failure | _ | _
    · exact .last (.unopened (.error failure) (by simp)) (by simp)
    · exact .last (.unopened (.ok false) (by simp)) (by simp)
    · exact course_settle attempt opened fun state left => ih left (attempt + 1) state

end Running

section Words

open RegularExpression

/-- The questions of an attempt that is given up. -/
def givenUpWord : RegularExpression Question :=
  char .start * char .work * (1 + char .commit) * char .rollback

/-- The questions of an attempt that ends a run. -/
def lastWord : RegularExpression Question :=
  char .start + char .start * char .work * char .commit + givenUpWord

/-- The questions of a whole run. -/
def runWord (delay : Nat) : RegularExpression Question :=
  (givenUpWord * char (Question.pause delay)).star * lastWord

theorem Setback.questions_mem_givenUpWord (setback : Setback Result) :
    setback.calls.map Call.question ++ [.rollback] ∈ givenUpWord.matches' := by
  rw [← rmatch_iff_matches']
  cases setback with
  | work failure => rfl
  | commit result answer denied => rfl

theorem Attempt.questions_mem_lastWord (attempt : Attempt Result) :
    attempt.calls.map Call.question ∈ lastWord.matches' := by
  cases attempt with
  | unopened answer denied => exact .inl (.inl rfl)
  | committed result => exact .inl (.inr ((rmatch_iff_matches' _ _).mp rfl))
  | givenUp setback rollback =>
    rw [calls, List.map_append]
    exact .inr setback.questions_mem_givenUpWord

variable {policy : RetryPolicy} {remaining : Nat} {calls : List (Call Result)}
variable {outcome : Except Failure Result}

theorem Course.questions_mem_runWord (course : Course policy remaining calls outcome) :
    calls.map Call.question ∈ (runWord policy.delay).matches' := by
  induction course with
  | last attempt _ =>
    exact Language.mem_mul.mpr
      ⟨[], Language.nil_mem_kstar _, _, attempt.questions_mem_lastWord, rfl⟩
  | retried setback _ _ ih =>
    obtain ⟨rounds, inRounds, ending, inEnding, joined⟩ := Language.mem_mul.mp ih
    obtain ⟨words, rfl, inWords⟩ := Language.mem_kstar.mp inRounds
    have first : setback.calls.map Call.question ++ [.rollback] ++ [.pause policy.delay] ∈
        (givenUpWord * char (Question.pause policy.delay)).matches' :=
      Language.append_mem_mul setback.questions_mem_givenUpWord rfl
    have rounds := Language.join_mem_kstar (List.forall_mem_cons.mpr ⟨first, inWords⟩)
    refine Language.mem_mul.mpr ⟨_, rounds, ending, inEnding, ?_⟩
    simp [← joined, Call.question]

/-- A course is a list of setbacks, each with its rollback and a pause, and a last attempt. -/
theorem Course.exists_setbacks (course : Course policy remaining calls outcome) :
    ∃ (setbacks : List (Setback Result)) (last : Attempt Result),
      calls = setbacks.flatMap (fun setback =>
          setback.calls ++ [.rollback (.ok true), .pause policy.delay]) ++ last.calls ∧
        setbacks.length < remaining := by
  induction course with
  | last attempt _ => exact ⟨[], attempt, rfl, by simp⟩
  | retried setback _ _ ih =>
    obtain ⟨setbacks, last, rfl, fewer⟩ := ih
    exact ⟨setback :: setbacks, last, by simp, by simpa using fewer⟩

/-- Each attempt opens one transaction at most and runs the work once at most. -/
theorem Course.count_le {question : Question} (once : question = .start ∨ question = .work)
    (course : Course policy remaining calls outcome) :
    (calls.map Call.question).count question ≤ remaining := by
  induction course with
  | last attempt _ =>
    rcases once with rfl | rfl <;> rcases attempt with _ | _ | (_ | _) <;>
      simp [Attempt.calls, Setback.calls, Call.question]
  | retried setback _ _ ih =>
    rcases once with rfl | rfl <;> rcases setback with _ | _ <;>
      simpa [Setback.calls, Call.question] using ih

end Words

/-- Whatever the driver and the work answer: without attempts nothing is called. Otherwise the
questions are a word of rounds, and the calls are those of setbacks, each rolled back once and
as asked before the pause that follows, and of one last attempt, all within the policy. -/
theorem run_follows_protocol (policy : RetryPolicy)
    (respondent : Respondent (interface Result) State) (state : State) :
    let calls := callsOf (run policy) respondent state
    let questions := calls.map Call.question
    (policy.attempts = 0 → calls = [] ∧
      ((run policy).conduct respondent state).1 = .error (.usage .noAttempts)) ∧
    (policy.attempts ≠ 0 →
      questions ∈ (runWord policy.delay).matches' ∧
      (∃ (setbacks : List (Setback Result)) (last : Attempt Result),
        calls = setbacks.flatMap (fun setback =>
            setback.calls ++ [.rollback (.ok true), .pause policy.delay]) ++ last.calls ∧
          setbacks.length < policy.attempts) ∧
      questions.count .start ≤ policy.attempts ∧ questions.count .work ≤ policy.attempts) := by
  intro calls questions
  constructor
  · intro none
    simp [calls, callsOf, run, none, runFrom, Dialogue.transcript, Dialogue.conduct]
  · intro some
    have course := @course_runFrom _ _ policy respondent _ some 1 state
    exact ⟨course.questions_mem_runWord, course.exists_setbacks,
      course.count_le (.inl rfl), course.count_le (.inr rfl)⟩

/-- A commit that fails transiently is rolled back, and the second attempt is published. -/
theorem run_follows_protocol_after_lost_commit :
    let policy : RetryPolicy := ⟨3, 5, ["40001"], ""⟩
    let lost : Failure := .driver ⟨.execute, some "40001", "could not serialize access"⟩
    let stage : Stage := { driver := { commits := [.error lost] } }
    let calls := callsOf (run policy) (Stage.transactionRespondent 7) ([], stage)
    policy.attempts ≠ 0 ∧ calls.map Call.question ∈ (runWord policy.delay).matches' ∧
      calls = [.start (.ok true), .work (.ok 7), .commit (.error lost), .rollback (.ok true),
        .pause 5, .start (.ok true), .work (.ok 7), .commit (.ok true)] := by
  intro policy lost stage calls
  have some : policy.attempts ≠ 0 := by decide
  exact ⟨some, ((run_follows_protocol policy _ _).2 some).1, rfl⟩

end SqlWright.Transaction
