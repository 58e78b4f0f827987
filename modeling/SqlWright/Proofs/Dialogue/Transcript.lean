import SqlWright.Dialogue
/-! What is asked and answered while a dialogue is conducted, in the order of asking. -/
namespace SqlWright

/-- An answered question, between the respondent's states before and after it. -/
structure Exchange (I : Interface) (State : Type) where
  before : State
  question : I.Question
  answer : I.Answer question
  after : State

namespace Dialogue

variable {I : Interface} {Result Other State : Type} {respondent : Respondent I State}

def transcript (respondent : Respondent I State) :
    Dialogue I Result → State → List (Exchange I State)
  | .done _, _ => []
  | .note event next, state => next.transcript respondent (respondent.note event state)
  | .ask question next, state =>
    let (answer, after) := respondent.answer question state
    ⟨state, question, answer, after⟩ :: (next answer).transcript respondent after

theorem conduct_bind (first : Dialogue I Result) (next : Result → Dialogue I Other)
    (state : State) :
    (first.bind next).conduct respondent state =
      (next (first.conduct respondent state).1).conduct respondent
        (first.conduct respondent state).2 := by
  induction first generalizing state with
  | done result => rfl
  | note event rest ih => exact ih (respondent.note event state)
  | ask question rest ih =>
    exact ih (respondent.answer question state).1 (respondent.answer question state).2

theorem transcript_bind (first : Dialogue I Result) (next : Result → Dialogue I Other)
    (state : State) :
    (first.bind next).transcript respondent state =
      first.transcript respondent state ++
        (next (first.conduct respondent state).1).transcript respondent
          (first.conduct respondent state).2 := by
  induction first generalizing state with
  | done result => rfl
  | note event rest ih => exact ih (respondent.note event state)
  | ask question rest ih =>
    exact congrArg (List.cons _)
      (ih (respondent.answer question state).1 (respondent.answer question state).2)

/-- Conducted from a state, a dialogue asks these questions in order and ends with this result in
this state. -/
structure Runs (respondent : Respondent I State) (dialogue : Dialogue I Result) (state : State)
    (questions : List I.Question) (result : Result) (final : State) : Prop where
  asks : (dialogue.transcript respondent state).map Exchange.question = questions
  ends : dialogue.conduct respondent state = (result, final)

namespace Runs

variable {state middle final : State} {questions others : List I.Question} {result : Result}
  {other : Other}

theorem done : Runs respondent (.done result) state [] result state := ⟨rfl, rfl⟩

theorem note {event : Event} {next : Dialogue I Result}
    (rest : Runs respondent next (respondent.note event state) questions result final) :
    Runs respondent (.note event next) state questions result final :=
  ⟨rest.asks, rest.ends⟩

theorem ask {question : I.Question} {answer : I.Answer question}
    {next : I.Answer question → Dialogue I Result}
    (replied : respondent.answer question state = (answer, middle))
    (rest : Runs respondent (next answer) middle questions result final) :
    Runs respondent (.ask question next) state (question :: questions) result final := by
  refine ⟨?_, ?_⟩
  · simp only [transcript, replied, List.map_cons, rest.asks]
  · simp only [conduct, replied, rest.ends]

theorem bind {first : Dialogue I Result} {next : Result → Dialogue I Other}
    (runs : Runs respondent first state questions result middle)
    (rest : Runs respondent (next result) middle others other final) :
    Runs respondent (first.bind next) state (questions ++ others) other final := by
  refine ⟨?_, ?_⟩
  · rw [transcript_bind, List.map_append, runs.asks, runs.ends, rest.asks]
  · rw [conduct_bind, runs.ends, rest.ends]

end Runs

end Dialogue

end SqlWright
