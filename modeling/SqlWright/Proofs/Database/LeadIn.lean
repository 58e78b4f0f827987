import SqlWright.Database.Client
import SqlWright.Proofs.Dialogue.Keeping
import Mathlib.Data.List.Basic
/-! The lead-in of a handle over everything that a client does with it. A call takes the lead-in
that was set last, if no call came in between, and puts it in front of its statement wherever it
sends it. -/
namespace SqlWright.Client

open Dialogue

variable {Kind World : Type} {Row : Kind → Type}

/-- The collaborators of a handle and the surroundings of its client, who answer as they please.
What they would say about renderings and the lead-in is not asked for. -/
structure Desk (World : Type) where
  config : Config
  hasStore : Bool
  answer : (question : Session.Question Statement) → World → Session.Answer question × World
  note : Event → World → World
  observe : World → Nat × World

/-- What happened on a handle: a lead-in was set or cleared, or a call asked these questions. -/
inductive Entry (Row : Kind → Type) where
  | lead (lead : Option String)
  | call (call : Call Row) (asked : List (Session.Question Statement))

structure Ledger (Row : Kind → Type) (World : Type) where
  lead : Option String
  world : World
  log : List (Entry Row)

namespace Desk

variable (desk : Desk World)

/-- The respondent of a call: statements are rendered, and the lead-in is given away once. -/
def respondent : Respondent (Session.interface Statement) (Option String × World) where
  answer
    | .rendering statement, state => ((statement.kind, statement.render.1), state)
    | .takeLead, (lead, world) => (lead, none, world)
    | question, (lead, world) =>
      let (answer, world) := desk.answer question world
      (answer, lead, world)
  note event state := (state.1, desk.note event state.2)

/-- Put a question to the collaborators that concerns no call. -/
private def relay (question : Session.Question Statement) (ledger : Ledger Row World) :
    Session.Answer question × Ledger Row World :=
  let (answer, world) := desk.answer question ledger.world
  (answer, { ledger with world })

/-- The respondent of a client. -/
def attend : Respondent (interface Row) (Ledger Row World) where
  answer
    | .setLead lead, ledger => ((), { ledger with lead, log := ledger.log ++ [.lead lead] })
    | .call call, ledger =>
      let dialogue := call.dialogue desk.config desk.hasStore
      let asked := (dialogue.transcript desk.respondent (ledger.lead, ledger.world)).map
        Exchange.question
      let (outcome, lead, world) :=
        dialogue.conduct desk.respondent (ledger.lead, ledger.world)
      (outcome, ⟨lead, world, ledger.log ++ [.call call asked]⟩)
    | .start, ledger => desk.relay .start ledger
    | .commit, ledger => desk.relay .commit ledger
    | .rollback, ledger => desk.relay .rollback ledger
    | .pause milliseconds, ledger => desk.relay (.pause milliseconds) ledger
    | .lastInsertId, ledger => desk.relay .lastInsertId ledger
    | .observe, ledger =>
      let (answer, world) := desk.observe ledger.world
      (answer, { ledger with world })
  note event ledger := { ledger with world := desk.note event ledger.world }

end Desk

/-- The lead-in that the next call takes: the one set last, unless it was cleared or a call came
after it. -/
def pending (past : List (Entry Row)) : Option String :=
  match past.getLast? with
  | some (.lead lead) => lead
  | some (.call ..) | none => none

/-- What was sent to the driver. -/
def sent (asked : List (Session.Question Statement)) : List (String × Table) :=
  asked.filterMap fun
    | .execute sql params => some (sql, params)
    | _ => none

namespace Call

/-- What a call sends when it has no lead-in. -/
def rendered : Call Row → Rendered
  | .execute statement | .exec statement => statement.render.1
  | .executeRaw fragment => ⟨fragment.text, fragment.params⟩
  | .fetch select _ _ => (Statement.select select).render.1

/-- What a call sends behind a lead-in. -/
def led (call : Call Row) (lead : Option String) : String × Table :=
  (lead.getD "" ++ call.rendered.sql, call.rendered.params)

/-- A call that may send more than once, or not at all. -/
def mayRepeat (call : Call Row) (lead : Option String) : Bool :=
  match call with
  | .execute _ | .executeRaw _ => false
  | .exec statement => statement.usesTransaction
  | .fetch .. => lead.isNone

/-- With this lead-in taken a call sends one thing only, and asks the store for nothing unless
there is none. -/
def contract (call : Call Row) (lead : Option String) : Contract (Session.interface Statement) where
  rely
    | .rendering statement, answer => answer = (statement.kind, statement.render.1)
    | _, _ => True
  permitted
    | .takeLead => False
    | .execute sql params => (sql, params) = call.led lead
    | .store _ => lead = none
    | _ => True

section Keeping

variable (call : Call Row) (lead : Option String) {Result Other : Type}

theorem keeps_send (config : Config) (kind : Option StatementKind) :
    (Session.send config kind call.rendered lead).Keeps (call.contract lead) := by
  unfold Session.send
  simp only
  split
  · exact ⟨rfl, fun _ _ => trivial⟩
  · exact ⟨rfl, fun _ _ => trivial⟩

theorem keeps_executeBehind (config : Config) {statement : Statement}
    (own : call.rendered = statement.render.1) :
    (Session.executeBehind config statement lead).Keeps (call.contract lead) := by
  refine ⟨trivial, ?_⟩
  rintro ⟨kind, rendered⟩ relied
  obtain ⟨-, rfl⟩ := Prod.mk.inj relied
  rw [← own]
  exact keeps_send call lead config (some kind)

variable {call lead}

/-- However often it is tried again, a unit of work that keeps to the contract does so. -/
theorem keeps_transaction (policy : RetryPolicy) {work : Session.Run Statement Result}
    (keeps : work.Keeps (call.contract lead)) :
    (Session.transaction policy work).Keeps (call.contract lead) := by
  refine keeps_refine ?_ _
  intro question
  cases question with
  | work => exact keeps
  | start | commit | rollback | pause => exact ⟨trivial, fun _ _ => trivial⟩

/-- The store is asked only by a fetch without a lead-in. -/
theorem keeps_cachedRun {run : Session.Run Statement ResultSet}
    (keeps : run.Keeps (call.contract none))
    (cachedRun : Dialogue (ReadThrough.interface ResultSet) (Except Failure ResultSet)) :
    (cachedRun.refine (Session.throughCache run)).Keeps (call.contract none) := by
  refine keeps_refine ?_ _
  intro question
  cases question with
  | run => exact keeps
  | store question => exact ⟨rfl, fun _ _ => trivial⟩

/-- A run that takes the lead-in first and then keeps to the contract. -/
def Takes (call : Call Row) (run : Session.Run Statement Result) : Prop :=
  ∃ next, run = .ask .takeLead next ∧ ∀ lead, (next lead).Keeps (call.contract lead)

theorem Takes.andThen {run : Session.Run Statement Result} (takes : call.Takes run)
    (next : Result → Except Failure Other) : call.Takes (Session.andThen run next) := by
  obtain ⟨rest, rfl, keeps⟩ := takes
  exact ⟨_, rfl, fun lead => (keeps lead).bind fun _ => trivial⟩

theorem takes_fetchResult (config : Config) (hasStore : Bool) {select : Select} (ttl : CacheTtl)
    (own : call.rendered = (Statement.select select).render.1) :
    call.Takes (Session.fetchResult config hasStore (.select select) ttl) := by
  refine ⟨_, rfl, ?_⟩
  intro lead
  cases lead with
  | some lead => exact keeps_executeBehind call (some lead) config own
  | none =>
    refine ⟨trivial, ?_⟩
    rintro ⟨kind, rendered⟩ _
    exact keeps_cachedRun (keeps_executeBehind call none config own) _

theorem takes_dialogue (config : Config) (hasStore : Bool) (call : Call Row) :
    call.Takes (call.dialogue config hasStore) := by
  cases call with
  | execute statement => exact ⟨_, rfl, fun lead => keeps_executeBehind _ lead config rfl⟩
  | executeRaw fragment =>
    exact ⟨_, rfl, fun lead => keeps_send (.executeRaw fragment) lead config none⟩
  | exec statement =>
    refine ⟨_, rfl, fun lead => ?_⟩
    have once := keeps_executeBehind (.exec statement : Call Row) lead config rfl
    simp only
    split
    · exact keeps_transaction config.transaction once
    · exact once
  | fetch select ttl view =>
    have own : (Call.fetch select ttl view).rendered = (Statement.select select).render.1 := rfl
    have takes := takes_fetchResult config hasStore ttl own
    cases view with
    | all | first | column | allAs => exact takes.andThen _
    | firstAs kind reader => exact (takes.andThen _).andThen _

end Keeping

end Call

section Asking

variable (desk : Desk World) (world : World)

/-- The questions of a call that begins with this lead-in set. -/
def Desk.asked (call : Call Row) (lead : Option String) : List (Session.Question Statement) :=
  ((call.dialogue desk.config desk.hasStore).transcript desk.respondent (lead, world)).map
    Exchange.question

/-- What a call asks, by the lead-in that it takes. -/
structure Faithful (call : Call Row) (lead : Option String)
    (asked : List (Session.Question Statement)) : Prop where
  led : ∀ sending ∈ sent asked, sending = call.led lead
  once : call.mayRepeat lead = false → sent asked = [call.led lead]
  uncached : lead ≠ none → ∀ question, .store question ∉ asked

section Permitted

variable {desk world} {call : Call Row} {lead : Option String}

/-- After the lead-in was taken a call asks what it may. -/
theorem Desk.permitted_of_asked {question : Session.Question Statement}
    (member : question ∈ desk.asked world call lead) :
    question = .takeLead ∨ (call.contract lead).permitted question := by
  have relied : ∀ question state, (call.contract lead).rely question
      (desk.respondent.answer question state).1 := by
    intro question state
    cases question with
    | rendering => rfl
    | _ => trivial
  obtain ⟨next, isDialogue, keeps⟩ := call.takes_dialogue desk.config desk.hasStore
  rw [Desk.asked, isDialogue] at member
  obtain ⟨exchange, inTranscript, rfl⟩ := List.mem_map.mp member
  rcases List.mem_cons.mp inTranscript with rfl | later
  · exact .inl rfl
  · exact .inr ((keeps lead).permitted relied (none, world) exchange later)

end Permitted

/-- No call leaves a lead-in behind. -/
theorem Desk.lead_after_call (call : Call Row) (lead : Option String) :
    ((call.dialogue desk.config desk.hasStore).conduct desk.respondent (lead, world)).2.1 =
      none := by
  obtain ⟨next, isDialogue, -⟩ := call.takes_dialogue desk.config desk.hasStore
  rw [isDialogue]
  let taken (state : Option String × World) : Prop := state.1 = none
  have answers : ∀ question state, taken state →
      taken (desk.respondent.answer question state).2 := by
    intro question state given
    cases question with
    | takeLead => rfl
    | _ => exact given
  exact conduct_invariant answers (fun _ _ given => given) (next lead)
    (show taken (none, world) from rfl)

section SendingOnce

theorem Call.runs_send (call : Call Row) (lead : Option String) (kind : Option StatementKind)
    (state : Option String × World) : ∃ outcome final,
      Runs desk.respondent (Session.send desk.config kind call.rendered lead) state
        [.execute (call.led lead).1 (call.led lead).2] outcome final := by
  unfold Session.send
  simp only
  split
  · exact ⟨_, _, .note (.ask rfl .done)⟩
  · exact ⟨_, _, .ask rfl .done⟩

theorem Call.runs_executeBehind (call : Call Row) (lead : Option String) {statement : Statement}
    (own : call.rendered = statement.render.1) (state : Option String × World) : ∃ outcome final,
      Runs desk.respondent (Session.executeBehind desk.config statement lead) state
        [.rendering statement, .execute (call.led lead).1 (call.led lead).2] outcome final := by
  obtain ⟨outcome, final, runs⟩ := call.runs_send desk lead (some statement.kind) state
  rw [own] at runs
  exact ⟨outcome, final, .ask rfl runs⟩

variable {desk world}

theorem runs_andThen {Result Other : Type} {run : Session.Run Statement Result}
    {state final : Option String × World} {questions : List (Session.Question Statement)}
    {outcome : Except Failure Result} (next : Result → Except Failure Other)
    (runs : Runs desk.respondent run state questions outcome final) :
    Runs desk.respondent (Session.andThen run next) state questions (outcome.bind next) final := by
  rw [← List.append_nil questions]
  exact runs.bind .done

theorem Desk.sent_of_runs (call : Call Row) {lead : Option String}
    {questions : List (Session.Question Statement)} {outcome : Except Failure call.Out}
    {final : Option String × World}
    (runs : Runs desk.respondent (call.dialogue desk.config desk.hasStore) (lead, world) questions
      outcome final) : sent (desk.asked world call lead) = sent questions :=
  congrArg sent runs.asks

/-- Only in a transaction, and in a fetch without a lead-in, is it up to the collaborators how
often a call sends. -/
theorem Desk.sent_of_not_mayRepeat (desk : Desk World) (world : World) (call : Call Row)
    (lead : Option String) (once : call.mayRepeat lead = false) :
    sent (desk.asked world call lead) = [call.led lead] := by
  cases call with
  | execute statement =>
    obtain ⟨_, _, runs⟩ :=
      (Call.execute statement : Call Row).runs_executeBehind desk lead rfl (none, world)
    exact Desk.sent_of_runs (.execute statement) (.ask rfl runs)
  | executeRaw fragment =>
    obtain ⟨_, _, runs⟩ :=
      (Call.executeRaw fragment : Call Row).runs_send desk lead none (none, world)
    exact Desk.sent_of_runs (.executeRaw fragment) (.ask rfl runs)
  | exec statement =>
    have plain : statement.usesTransaction = false := once
    obtain ⟨_, _, runs⟩ :=
      (Call.exec statement : Call Row).runs_executeBehind desk lead rfl (none, world)
    have whole : Runs desk.respondent (Session.exec desk.config statement false) (lead, world)
        _ _ _ := .ask rfl runs
    rw [← plain] at whole
    exact Desk.sent_of_runs (.exec statement) whole
  | fetch select ttl view =>
    obtain ⟨given, rfl⟩ : ∃ given, lead = some given := Option.isSome_iff_exists.mp (by
      simpa [Call.mayRepeat] using once)
    obtain ⟨_, _, runs⟩ :=
      (Call.fetch select ttl view).runs_executeBehind desk (some given) rfl (none, world)
    have whole : Runs desk.respondent
        (Session.fetchResult desk.config desk.hasStore (.select select) ttl) (some given, world)
        _ _ _ := .ask rfl runs
    cases view with
    | all => exact Desk.sent_of_runs (.fetch select ttl .all) (runs_andThen _ whole)
    | first => exact Desk.sent_of_runs (.fetch select ttl .first) (runs_andThen _ whole)
    | column index =>
      exact Desk.sent_of_runs (.fetch select ttl (.column index)) (runs_andThen _ whole)
    | firstAs kind reader =>
      exact Desk.sent_of_runs (.fetch select ttl (.firstAs kind reader))
        (runs_andThen _ (runs_andThen _ whole))
    | allAs kind reader =>
      exact Desk.sent_of_runs (.fetch select ttl (.allAs kind reader)) (runs_andThen _ whole)

end SendingOnce

theorem Desk.faithful (desk : Desk World) (world : World) (call : Call Row)
    (lead : Option String) : Faithful call lead (desk.asked world call lead) := by
  refine ⟨?_, desk.sent_of_not_mayRepeat world call lead, ?_⟩
  · intro sending member
    obtain ⟨question, isAsked, isSending⟩ := List.mem_filterMap.mp member
    cases question with
    | execute sql params =>
      obtain rfl := Option.some.inj isSending
      rcases Desk.permitted_of_asked isAsked with other | permitted
      · cases other
      · exact permitted
    | _ => cases isSending
  · intro isLed question member
    rcases Desk.permitted_of_asked member with other | permitted
    · cases other
    · exact isLed permitted

end Asking

section Attending

variable {desk : Desk World} {ledger : Ledger Row World}

/-- The lead-in that is set is the pending one, and every call asked what it may behind the one
that it took. -/
structure Ledger.Sound (ledger : Ledger Row World) : Prop where
  lead : ledger.lead = pending ledger.log
  faithful : ∀ past call asked later, ledger.log = past ++ .call call asked :: later →
    Faithful call (pending past) asked

theorem pending_concat_lead (past : List (Entry Row)) (lead : Option String) :
    pending (past ++ [.lead lead]) = lead := by
  simp [pending]

theorem pending_concat_call (past : List (Entry Row)) (call : Call Row)
    (asked : List (Session.Question Statement)) : pending (past ++ [.call call asked]) = none := by
  simp [pending]

/-- Between an earlier call and this moment the pending lead-in was set. -/
theorem mem_of_pending {past before between : List (Entry Row)} {call : Call Row}
    {asked : List (Session.Question Statement)} {lead : String}
    (isPending : pending past = some lead) (parted : past = before ++ .call call asked :: between) :
    .lead (some lead) ∈ between := by
  have last : (.call call asked :: between).getLast? = some (.lead (some lead)) := by
    unfold pending at isPending
    rw [parted, List.getLast?_append_of_ne_nil _ (List.cons_ne_nil _ _)] at isPending
    split at isPending
    · next found => rw [found, isPending]
    · cases isPending
    · cases isPending
  rcases List.mem_cons.mp (List.mem_of_getLast? last) with same | later
  · cases same
  · exact later

/-- An entry of a log to which one was added is the added one, or was there before. -/
theorem eq_of_concat {log past later : List (Entry Row)} {added entry : Entry Row}
    (same : log ++ [added] = past ++ entry :: later) :
    (log = past ∧ added = entry) ∨ ∃ rest, log = past ++ entry :: rest := by
  rcases List.eq_nil_or_concat' later with rfl | ⟨rest, last, rfl⟩
  · obtain ⟨logs, entries⟩ := List.append_inj' same rfl
    exact .inl ⟨logs, List.head_eq_of_cons_eq entries⟩
  · rw [← List.cons_append, ← List.append_assoc] at same
    exact .inr ⟨rest, (List.append_inj' same rfl).1⟩

theorem Ledger.Sound.answer (sound : ledger.Sound) (question : Question Row) :
    (desk.attend.answer question ledger).2.Sound := by
  cases question with
  | setLead lead =>
    refine ⟨(pending_concat_lead ledger.log lead).symm, ?_⟩
    intro past call asked later logged
    rcases eq_of_concat logged with ⟨-, other⟩ | ⟨rest, before⟩
    · cases other
    · exact sound.faithful past call asked rest before
  | call call =>
    refine ⟨?_, ?_⟩
    · exact (desk.lead_after_call ledger.world call ledger.lead).trans
        (pending_concat_call ledger.log call _).symm
    · intro past other asked later logged
      rcases eq_of_concat logged with ⟨rfl, same⟩ | ⟨rest, before⟩
      · obtain ⟨rfl, rfl⟩ := Entry.call.inj same
        rw [← sound.lead]
        exact desk.faithful ledger.world call ledger.lead
      · exact sound.faithful past other asked rest before
  | start | commit | rollback | pause | lastInsertId | observe =>
    exact ⟨sound.lead, sound.faithful⟩

theorem Desk.sound_conduct {Result : Type} (desk : Desk World) (world : World)
    (client : Dialogue (interface Row) Result) :
    (client.conduct desk.attend ⟨none, world, []⟩).2.Sound := by
  have start : (⟨none, world, []⟩ : Ledger Row World).Sound := by
    refine ⟨rfl, ?_⟩
    intro past call asked later logged
    simp at logged
  exact conduct_invariant (fun question _ sound => sound.answer question)
    (fun _ _ sound => ⟨sound.lead, sound.faithful⟩) client start

end Attending

/-- Whatever a client does with a handle, in units of work or not, and whatever it is answered:
every text that a call sends is the text of its statement behind the lead-in that was set last, or
alone if a call came after that or the lead-in was cleared, and it comes with the statement's own
table. A call that takes a lead-in asks nothing of the store, and had its lead-in set after every
call before it. -/
theorem sent_behind_pending {Result : Type} (desk : Desk World) (world : World)
    (client : Dialogue (interface Row) Result) {past later : List (Entry Row)} {call : Call Row}
    {asked : List (Session.Question Statement)}
    (logged : (client.conduct desk.attend ⟨none, world, []⟩).2.log =
      past ++ .call call asked :: later) :
    let sending := ((pending past).getD "" ++ call.rendered.sql, call.rendered.params)
    (∀ other ∈ sent asked, other = sending) ∧
      (call.mayRepeat (pending past) = false → sent asked = [sending]) ∧
      ∀ lead, pending past = some lead →
        (∀ question, .store question ∉ asked) ∧
        ∀ before earlier questions between, past = before ++ .call earlier questions :: between →
          .lead (some lead) ∈ between := by
  intro sending
  have faithful := (desk.sound_conduct world client).faithful past call asked later logged
  refine ⟨faithful.led, faithful.once, ?_⟩
  intro lead isPending
  refine ⟨faithful.uncached (by simp [isPending]), ?_⟩
  intro before earlier questions between parted
  exact mem_of_pending isPending parted

/-- A driver that turns its first execution down for the moment. -/
def contended : Desk Nat where
  config := .standard
  hasStore := false
  answer
    | .rendering statement, count => ((statement.kind, statement.render.1), count)
    | .takeLead, count => (none, count)
    | .execute .., 0 =>
      (.error (.driver { stage := .execute, code := some "40001", message := "try again" }), 1)
    | .execute .., count => (.ok {}, count + 1)
    | .start, count | .commit, count | .rollback, count => (.ok true, count)
    | .lastInsertId, count => (.ok none, count)
    | .store (.has _), count => (.ok false, count)
    | .store (.get _), count => (.ok none, count)
    | .store (.set ..), count => (.ok (), count)
    | .pause _, count => ((), count)
  note _ count := count
  observe count := (count, count)

def retried : Statement :=
  .update { Update.draft "users" .standard with
    assignments := [("age", .value (.int 30))], usesTransaction := true }

/-- A lead-in, an update in a transaction of its own, and the update again in a unit of work. -/
def explaining : Dialogue (interface fun _ : Empty => Unit) (Except Failure ResultSet) :=
  .ask (.setLead (some "EXPLAIN ")) fun _ => .ask (.call (.exec retried)) fun _ =>
    transaction .standard (.ask (.call (.execute retried)) .done)

theorem sent_behind_pending_when_retried : ∃ first second : List (Session.Question Statement),
    (explaining.conduct contended.attend ⟨none, 0, []⟩).2.log =
        [.lead (some "EXPLAIN "), .call (.exec retried) first, .call (.execute retried) second] ∧
      (sent first).length = 2 ∧
      (∀ sending ∈ sent first,
        sending = ("EXPLAIN " ++ retried.render.1.sql, retried.render.1.params)) ∧
      sent second = [(retried.render.1.sql, retried.render.1.params)] := by
  have logged : (explaining.conduct contended.attend ⟨none, 0, []⟩).2.log =
    [.lead (some "EXPLAIN ")] ++ .call (.exec retried) _ :: [.call (.execute retried) _] := rfl
  obtain ⟨led, -⟩ := sent_behind_pending contended 0 explaining logged
  have loggedAgain : (explaining.conduct contended.attend ⟨none, 0, []⟩).2.log =
    [.lead (some "EXPLAIN "), .call (.exec retried) _] ++ .call (.execute retried) _ :: [] := rfl
  obtain ⟨-, once, -⟩ := sent_behind_pending contended 0 explaining loggedAgain
  exact ⟨_, _, logged, rfl, led, once rfl⟩

end SqlWright.Client
