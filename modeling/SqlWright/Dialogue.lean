import SqlWright.Event
/-! Work that needs collaborators, as data. A dialogue is finished, or reports an event, or
asks one question and goes on with the answer; who answers is decided later. -/
namespace SqlWright

/-- The questions of a collaborator, each with the type of its answers. -/
structure Interface where
  Question : Type
  Answer : Question → Type

inductive Dialogue (I : Interface) (Result : Type) : Type where
  | done (result : Result)
  | note (event : Event) (next : Dialogue I Result)
  | ask (question : I.Question) (next : I.Answer question → Dialogue I Result)

namespace Dialogue

variable {I J : Interface} {Result Other State : Type}

protected def bind : Dialogue I Result → (Result → Dialogue I Other) → Dialogue I Other
  | .done result, next => next result
  | .note event rest, next => .note event (rest.bind next)
  | .ask question rest, next => .ask question fun answer => (rest answer).bind next

instance : Monad (Dialogue I) where
  pure := .done
  bind := Dialogue.bind

/-- Ask one question and finish with its answer. -/
def query (question : I.Question) : Dialogue I (I.Answer question) := .ask question .done

def report (event : Event) : Dialogue I Unit := .note event (.done ())

/-- Answer each question of one interface by a dialogue in another one. -/
def refine (handle : (question : I.Question) → Dialogue J (I.Answer question)) :
    Dialogue I Result → Dialogue J Result
  | .done result => .done result
  | .note event next => .note event (next.refine handle)
  | .ask question next =>
    (handle question).bind fun answer => (next answer).refine handle

end Dialogue

/-- A collaborator with a state: it answers questions and takes notice of events. -/
structure Respondent (I : Interface) (State : Type) where
  answer : (question : I.Question) → State → I.Answer question × State
  note : Event → State → State

/-- Conduct a dialogue to its end with one respondent. -/
def Dialogue.conduct {I : Interface} {Result State : Type} (respondent : Respondent I State) :
    Dialogue I Result → State → Result × State
  | .done result, state => (result, state)
  | .note event next, state => next.conduct respondent (respondent.note event state)
  | .ask question next, state =>
    let (answer, state) := respondent.answer question state
    (next answer).conduct respondent state

end SqlWright
