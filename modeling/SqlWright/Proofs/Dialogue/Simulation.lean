import SqlWright.Proofs.Dialogue.Transcript
/-! Respondents that cannot be told apart by their answers. If their states are related at the
start and every answer keeps them related, then questions in any order are answered alike, and
every dialogue goes the same way. -/
namespace SqlWright

variable {I : Interface} {Result State Other : Type}

/-- An answered question. -/
abbrev Reply (I : Interface) : Type := (question : I.Question) × I.Answer question

/-- The answered questions of a dialogue. -/
def Dialogue.replies (dialogue : Dialogue I Result) (respondent : Respondent I State)
    (state : State) : List (Reply I) :=
  (dialogue.transcript respondent state).map fun exchange => ⟨exchange.question, exchange.answer⟩

namespace Respondent

/-- The answers to questions asked one after the other. -/
def replies (respondent : Respondent I State) : List I.Question → State → List (Reply I)
  | [], _ => []
  | question :: rest, state =>
    let (answer, after) := respondent.answer question state
    ⟨question, answer⟩ :: respondent.replies rest after

def after (respondent : Respondent I State) (questions : List I.Question) (state : State) : State :=
  questions.foldl (fun state question => (respondent.answer question state).2) state

theorem after_concat (respondent : Respondent I State) (questions : List I.Question)
    (question : I.Question) (state : State) :
    respondent.after (questions ++ [question]) state =
      (respondent.answer question (respondent.after questions state)).2 := by
  rw [after, List.foldl_append]
  rfl

/-- Related states give the same answers, and answers and events leave related states behind. -/
structure Simulates (first : Respondent I State) (second : Respondent I Other)
    (related : State → Other → Prop) : Prop where
  answer : ∀ {state other}, related state other → ∀ question,
    (first.answer question state).1 = (second.answer question other).1 ∧
      related (first.answer question state).2 (second.answer question other).2
  note : ∀ {state other}, related state other → ∀ event,
    related (first.note event state) (second.note event other)

namespace Simulates

variable {first : Respondent I State} {second : Respondent I Other}
  {related : State → Other → Prop} {state : State} {other : Other}

/-- The same answer is given on both sides, and what is left is related again. -/
private theorem exists_answer (simulates : first.Simulates second related)
    (start : related state other) (question : I.Question) : ∃ answer after afterOther,
    first.answer question state = (answer, after) ∧
      second.answer question other = (answer, afterOther) ∧ related after afterOther := by
  obtain ⟨same, next⟩ := simulates.answer start question
  exact ⟨_, _, _, rfl, Prod.ext same.symm rfl, next⟩

theorem replies (simulates : first.Simulates second related) (start : related state other)
    (questions : List I.Question) :
    first.replies questions state = second.replies questions other := by
  induction questions generalizing state other with
  | nil => rfl
  | cons question rest ih =>
    obtain ⟨answer, after, afterOther, one, two, next⟩ := simulates.exists_answer start question
    simp only [Respondent.replies, one, two, ih next]

theorem after (simulates : first.Simulates second related) (start : related state other)
    (questions : List I.Question) :
    related (first.after questions state) (second.after questions other) := by
  induction questions generalizing state other with
  | nil => exact start
  | cons question rest ih => exact ih (simulates.answer start question).2

/-- A dialogue gets the same answers to the same questions on both sides, and so comes to the same
result. -/
theorem dialogue (simulates : first.Simulates second related) (start : related state other)
    (dialogue : Dialogue I Result) :
    dialogue.replies first state = dialogue.replies second other ∧
      (dialogue.conduct first state).1 = (dialogue.conduct second other).1 ∧
      related (dialogue.conduct first state).2 (dialogue.conduct second other).2 := by
  induction dialogue generalizing state other with
  | done result => exact ⟨rfl, rfl, start⟩
  | note event rest ih => exact ih (simulates.note start event)
  | ask question rest ih =>
    obtain ⟨answer, after, afterOther, one, two, next⟩ := simulates.exists_answer start question
    obtain ⟨asked, ends, final⟩ := ih answer next
    simp only [Dialogue.replies, Dialogue.transcript, Dialogue.conduct, one, two, List.map_cons]
    exact ⟨congrArg _ asked, ends, final⟩

end Simulates

end Respondent

end SqlWright
