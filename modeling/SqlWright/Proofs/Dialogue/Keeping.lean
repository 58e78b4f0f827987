import SqlWright.Proofs.Dialogue.Contract
import SqlWright.Proofs.Dialogue.Transcript
/-! Dialogues that keep to a contract for as long as they go on, and what stays true of a
respondent whatever it is asked. -/
namespace SqlWright.Dialogue

variable {I J : Interface} {Result Other State : Type} {contract : Contract I}

/-- Every question is a permitted one, if all answers before it are as relied on. -/
def Keeps (contract : Contract I) : Dialogue I Result → Prop
  | .done _ => True
  | .note _ next => next.Keeps contract
  | .ask question next =>
    contract.permitted question ∧
      ∀ answer, contract.rely question answer → (next answer).Keeps contract

theorem Keeps.bind {dialogue : Dialogue I Result} {next : Result → Dialogue I Other}
    (keeps : dialogue.Keeps contract) (nextKeeps : ∀ result, (next result).Keeps contract) :
    (dialogue.bind next).Keeps contract := by
  induction dialogue with
  | done result => exact nextKeeps result
  | note event rest ih => exact ih keeps
  | ask question rest ih => exact ⟨keeps.1, fun answer relied => ih answer (keeps.2 answer relied)⟩

/-- It is enough that the handling of every question keeps to the contract. -/
theorem keeps_refine {handle : (question : J.Question) → Dialogue I (J.Answer question)}
    (handles : ∀ question, (handle question).Keeps contract) (dialogue : Dialogue J Result) :
    (dialogue.refine handle).Keeps contract := by
  induction dialogue with
  | done result => exact trivial
  | note event rest ih => exact ih
  | ask question rest ih => exact (handles question).bind ih

section Conducting

variable {respondent : Respondent I State}

theorem Keeps.permitted {dialogue : Dialogue I Result} (keeps : dialogue.Keeps contract)
    (relied : ∀ question state, contract.rely question (respondent.answer question state).1)
    (state : State) :
    ∀ exchange ∈ dialogue.transcript respondent state, contract.permitted exchange.question := by
  induction dialogue generalizing state with
  | done result => exact List.forall_mem_nil _
  | note event rest ih => exact ih keeps (respondent.note event state)
  | ask question rest ih =>
    exact List.forall_mem_cons.mpr
      ⟨keeps.1, ih _ (keeps.2 _ (relied question state)) (respondent.answer question state).2⟩

/-- What no answer and no notice ends stays true to the end. -/
theorem conduct_invariant {holds : State → Prop}
    (answers : ∀ question state, holds state → holds (respondent.answer question state).2)
    (notes : ∀ event state, holds state → holds (respondent.note event state))
    (dialogue : Dialogue I Result) {state : State} (start : holds state) :
    holds (dialogue.conduct respondent state).2 := by
  induction dialogue generalizing state with
  | done result => exact start
  | note event rest ih => exact ih (notes event state start)
  | ask question rest ih => exact ih _ (answers question state start)

end Conducting

end SqlWright.Dialogue
