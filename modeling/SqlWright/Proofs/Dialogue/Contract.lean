import SqlWright.Dialogue
/-! What a dialogue keeps to, whoever answers it: the questions it may ask, the results it may end
with and the number of steps it may take, as long as every answer is one that it may rely on. -/
namespace SqlWright.Dialogue

/-- The answers a dialogue relies on and the questions it is permitted to ask. -/
structure Contract (I : Interface) where
  rely : (question : I.Question) → I.Answer question → Prop
  permitted : I.Question → Prop

variable {I J : Interface} {Result Other : Type} {contract : Contract I} {wanted : Result → Prop}

/-- Within so many questions and events a wanted result is reached by permitted questions alone,
if the answers are as relied on. -/
def Meets (contract : Contract I) (wanted : Result → Prop) : Nat → Dialogue I Result → Prop
  | _, .done result => wanted result
  | 0, .note .. | 0, .ask .. => False
  | bound + 1, .note _ next => next.Meets contract wanted bound
  | bound + 1, .ask question next =>
    contract.permitted question ∧
      ∀ answer, contract.rely question answer → (next answer).Meets contract wanted bound

section Meeting

variable {bound larger : Nat} {dialogue : Dialogue I Result}

theorem meets_done {result : Result} (reached : wanted result) :
    (done result : Dialogue I Result).Meets contract wanted bound := by
  cases bound <;> exact reached

theorem Meets.of_done {result : Result}
    (meets : (done result : Dialogue I Result).Meets contract wanted bound) : wanted result := by
  cases bound <;> exact meets

theorem Meets.mono (meets : dialogue.Meets contract wanted bound) (le : bound ≤ larger) :
    dialogue.Meets contract wanted larger := by
  induction dialogue generalizing bound larger with
  | done result => cases bound <;> exact meets_done meets
  | note event rest ih =>
    cases bound with
    | zero => exact meets.elim
    | succ bound =>
      cases larger with
      | zero => omega
      | succ larger =>
        have restMeets : rest.Meets contract wanted bound := meets
        exact ih restMeets (by omega)
  | ask question rest ih =>
    cases bound with
    | zero => exact meets.elim
    | succ bound =>
      cases larger with
      | zero => omega
      | succ larger =>
        exact ⟨meets.1, fun answer relied => ih answer (meets.2 answer relied) (by omega)⟩

/-- A dialogue without steps left has ended. -/
theorem Meets.of_zero (meets : dialogue.Meets contract wanted 0) :
    ∃ result, dialogue = .done result ∧ wanted result := by
  cases dialogue with
  | done result => exact ⟨result, rfl, meets⟩
  | note => exact meets.elim
  | ask => exact meets.elim

theorem Meets.bind {wantedNext : Other → Prop} {next : Result → Dialogue I Other} (more : Nat)
    (meets : dialogue.Meets contract wanted bound)
    (nextMeets : ∀ result, wanted result → (next result).Meets contract wantedNext more) :
    (dialogue.bind next).Meets contract wantedNext (bound + more) := by
  induction dialogue generalizing bound with
  | done result =>
    exact (nextMeets result meets.of_done).mono (Nat.le_add_left ..)
  | note event rest ih =>
    cases bound with
    | zero => exact meets.elim
    | succ bound =>
      rw [Nat.succ_add]
      exact ih meets
  | ask question rest ih =>
    cases bound with
    | zero => exact meets.elim
    | succ bound =>
      rw [Nat.succ_add]
      exact ⟨meets.1, fun answer relied => ih answer (meets.2 answer relied)⟩

end Meeting

end SqlWright.Dialogue
