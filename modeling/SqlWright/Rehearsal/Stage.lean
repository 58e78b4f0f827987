import SqlWright.Database.Session
import SqlWright.Rehearsal.Store
import SqlWright.Statement.Basic
/-! A rehearsal of a database handle: prepared replies in place of a driver, a recording
store, named statements, and a clock that moves only by pausing. -/
namespace SqlWright

/-- Replies prepared for the questions to a driver, used up in order. -/
structure PreparedDriver where
  results : List (Except Failure ResultSet) := []
  /-- The result once the prepared ones are used up. -/
  fallback : ResultSet := {}
  starts : List (Except Failure Bool) := []
  commits : List (Except Failure Bool) := []
  rollbacks : List (Except Failure Bool) := []
  insertId : Except Failure (Option String) := .ok none

structure Stage where
  driver : PreparedDriver := {}
  store : Option RehearsalStore := none
  statements : List (String × Statement) := []
  lead : Option String := none
  calls : List Call := []
  events : List Event := []
  elapsed : Nat := 0

namespace Stage

def statement? (stage : Stage) (name : String) : Option Statement :=
  (stage.statements.find? fun entry => entry.1 = name).map (·.2)

def putStatement (stage : Stage) (name : String) (statement : Statement) : Stage :=
  { stage with
    statements := Keyed.putAt (fun entry : String × Statement => some entry.1) name
      (name, statement) stage.statements }

def note (event : Event) (stage : Stage) : Stage :=
  { stage with events := stage.events ++ [event] }

def noteAll (events : List Event) (stage : Stage) : Stage :=
  { stage with events := stage.events ++ events }

private def called (stage : Stage) (call : Call) : Stage :=
  { stage with calls := stage.calls ++ [call] }

/-- Render a statement in place. What it reports is noted. -/
def render (stage : Stage) (name : String) (statement : Statement) : Rendered × Stage :=
  let (rendered, frozen) := statement.render
  (rendered,
    (stage.noteAll (statement.renderNotices.map .operandsDropped)).putStatement name frozen)

private def answerExecute (stage : Stage) : Except Failure ResultSet × Stage :=
  let (reply, rest) := nextReply stage.driver.results (.ok stage.driver.fallback)
  (reply, { stage with driver := { stage.driver with results := rest } })

private def answerStart (stage : Stage) : Except Failure Bool × Stage :=
  let (reply, rest) := nextReply stage.driver.starts (.ok true)
  (reply, { stage with driver := { stage.driver with starts := rest } })

private def answerCommit (stage : Stage) : Except Failure Bool × Stage :=
  let (reply, rest) := nextReply stage.driver.commits (.ok true)
  (reply, { stage with driver := { stage.driver with commits := rest } })

private def answerRollback (stage : Stage) : Except Failure Bool × Stage :=
  let (reply, rest) := nextReply stage.driver.rollbacks (.ok true)
  (reply, { stage with driver := { stage.driver with rollbacks := rest } })

private def pause (milliseconds : Nat) (stage : Stage) : Stage :=
  { stage with elapsed := stage.elapsed + milliseconds }

/-- Without a store nothing is found and nothing is kept. -/
private def answerStore (question : CacheStore.Question) (stage : Stage) :
    CacheStore.Answer question × Stage :=
  let store := stage.store.getD ⟨.nothing, [], []⟩
  let (answer, store) := store.answer question
  (answer,
    { stage with
      store := stage.store.map fun _ => { store with calls := [] }
      calls := stage.calls ++ store.calls })

/-- Questions of a handle. A name that is not in use stands for an empty select. -/
def answer : (question : Session.Question String) → Stage → Session.Answer question × Stage
  | .rendering name, stage =>
    let statement := (stage.statement? name).getD (.draft .select "" .standard)
    let (rendered, stage) := stage.render name statement
    ((statement.kind, rendered), stage)
  | .takeLead, stage => (stage.lead, { stage with lead := none })
  | .execute sql params, stage => answerExecute (stage.called (.execute sql params))
  | .start, stage => answerStart (stage.called .start)
  | .commit, stage => answerCommit (stage.called .commit)
  | .rollback, stage => answerRollback (stage.called .rollback)
  | .lastInsertId, stage => (stage.driver.insertId, stage.called .lastInsertId)
  | .store question, stage => answerStore question stage
  | .pause milliseconds, stage => ((), pause milliseconds stage)

def respondent : Respondent (Session.interface String) Stage := ⟨answer, note⟩

/-- Questions of a transaction whose work has prepared outcomes, too. -/
def transactionAnswer {Result : Type} (fallback : Result) :
    (question : Transaction.Question) → List (Except Failure Result) × Stage →
      Transaction.Answer Result question × List (Except Failure Result) × Stage
  | .start, (work, stage) =>
    let (reply, stage) := answerStart (stage.called .start)
    (reply, work, stage)
  | .work, (work, stage) =>
    let (outcome, work) := nextReply work (.ok fallback)
    (outcome, work, stage.called .work)
  | .commit, (work, stage) =>
    let (reply, stage) := answerCommit (stage.called .commit)
    (reply, work, stage)
  | .rollback, (work, stage) =>
    let (reply, stage) := answerRollback (stage.called .rollback)
    (reply, work, stage)
  | .pause milliseconds, (work, stage) => ((), work, pause milliseconds stage)

def transactionRespondent {Result : Type} (fallback : Result) :
    Respondent (Transaction.interface Result) (List (Except Failure Result) × Stage) :=
  ⟨transactionAnswer fallback, fun event (work, stage) => (work, stage.note event)⟩

/-- Questions of a cached fetch whose query has one prepared outcome. -/
def readThroughAnswer {Result : Type} (outcome : Except Failure Result) :
    (question : ReadThrough.Question) → Stage → ReadThrough.Answer Result question × Stage
  | .store question, stage => answerStore question stage
  | .run, stage => (outcome, stage.called .query)

def readThroughRespondent {Result : Type} (outcome : Except Failure Result) :
    Respondent (ReadThrough.interface Result) Stage := ⟨readThroughAnswer outcome, note⟩

end Stage

end SqlWright
