import SqlWright.Proofs.Cache.Fetching
import SqlWright.Proofs.Cache.Memory
/-! Fetches that run at the same time over one handle, one question of one of them at a time. What
the store holds is always the driver's own answer, so no fetch can tell whether it was cached. -/
namespace SqlWright

open Session Dialogue

/-- Fetches over one handle, whose driver answers by the query alone. -/
structure Traffic (Index : Type) where
  config : Config
  fetches : Index → Fetch
  driver : Query → Except Failure ResultSet

namespace Traffic

variable {Index : Type} (traffic : Traffic Index)

/-- What executing the query of a fetch gives, behind its lead-in and past the cache. -/
def direct (index : Index) : Except Failure (traffic.fetches index).Out :=
  (traffic.driver (traffic.fetches index).led).bind (traffic.fetches index).flavour.view

/-- The statements that are cached in the course of these fetches. -/
def cached : Set Rendered :=
  {rendered | ∃ index, (traffic.fetches index).ReadsThrough ∧
    rendered = (traffic.fetches index).rendered}

/-- The shared store, and what is left of every fetch. -/
structure State where
  store : MemoryStore
  pending : (index : Index) → Run Select (traffic.fetches index).Out

def start (capacity : Nat) : traffic.State where
  store := .empty capacity
  pending := fun index => (traffic.fetches index).dialogue traffic.config

/-- The answer to a question of one of the fetches. None of them asks about transactions, insert
ids or pauses. -/
def reply (index : Index) (now : Nat) : (question : Question Select) → MemoryStore →
    Answer question × MemoryStore
  | .rendering statement, store => ((.select, (Builder.render statement).1), store)
  | .takeLead, store => ((traffic.fetches index).lead, store)
  | .execute sql params, store => (traffic.driver ⟨sql, params.valueOf⟩, store)
  | .store question, store => store.answer now question
  | .start, store | .commit, store | .rollback, store => (.ok true, store)
  | .lastInsertId, store => (.ok none, store)
  | .pause _, store => ((), store)

/-- One thing that happens: a fetch goes on at some moment, or the store loses a key. -/
inductive Turn (Index : Type) where
  | step (index : Index) (now : Nat)
  | forget (key : String)

/-- A text under a key is the driver's own answer to the query that is cached under it. -/
def Truthful (key text : String) : Prop :=
  ∃ index result, (traffic.fetches index).ReadsThrough ∧
    key = (traffic.fetches index).key traffic.config ∧
    traffic.driver (traffic.fetches index).query = .ok result ∧ text = Json.ofResult result

/-- A fetch relies on truthful texts and writes no others. -/
def contract (index : Index) : Contract (Session.interface Select) where
  rely
    | .rendering statement, answer => answer = (.select, (Builder.render statement).1)
    | .takeLead, answer => answer = (traffic.fetches index).lead
    | .execute sql params, answer => answer = traffic.driver ⟨sql, params.valueOf⟩
    | .store (.has _), answer => ∃ found, answer = .ok found
    | .store (.get key), answer => ∃ found : Option String, answer = .ok found ∧
        ∀ text, found = some text → traffic.Truthful key text
    | .store (.set ..), answer => answer = .ok ()
    | .start, _ | .commit, _ | .rollback, _ | .lastInsertId, _ | .pause _, _ => True
  permitted
    | .store (.set key text _) => traffic.Truthful key text
    | .rendering _ | .takeLead | .execute .. | .store _ => True
    | .start | .commit | .rollback | .lastInsertId | .pause _ => False

section Meeting

variable {traffic} {index : Index}

theorem send_meets (kind : Option StatementKind) (rendered : Rendered) (lead : Option String) :
    (send traffic.config kind rendered lead).Meets (traffic.contract index)
      (· = traffic.driver ⟨lead.getD "" ++ rendered.sql, rendered.params.valueOf⟩) 2 := by
  unfold send
  simp only
  split
  · exact ⟨trivial, fun answer relied => relied⟩
  · exact ⟨trivial, fun answer relied => relied⟩

theorem executeBehind_meets (lead : Option String) :
    (executeBehind traffic.config (traffic.fetches index).select lead).Meets
      (traffic.contract index) (· = traffic.driver
        ⟨lead.getD "" ++ (traffic.fetches index).query.sql, (traffic.fetches index).query.values⟩)
      3 := by
  refine ⟨trivial, ?_⟩
  rintro ⟨kind, rendered⟩ relied
  obtain ⟨-, rfl⟩ := Prod.mk.inj relied
  rw [(traffic.fetches index).render_eq]
  exact send_meets ..

/-- A truthful store gives the answers a fetch relies on, and a permitted question leaves it
truthful. -/
theorem reply_relied {store : MemoryStore} (now : Nat)
    {question : Question Select} (permitted : (traffic.contract index).permitted question)
    (truthful : ∀ kept ∈ store.entries, traffic.Truthful kept.1 kept.2.text) :
    (traffic.contract index).rely question (traffic.reply index now question store).1 ∧
      ∀ kept ∈ (traffic.reply index now question store).2.entries,
        traffic.Truthful kept.1 kept.2.text := by
  cases question with
  | rendering statement => exact ⟨rfl, truthful⟩
  | takeLead => exact ⟨rfl, truthful⟩
  | execute sql params => exact ⟨rfl, truthful⟩
  | store question =>
    cases question with
    | has key =>
      exact ⟨⟨_, rfl⟩, fun kept member => truthful kept (MemoryStore.mem_of_mem_read member)⟩
    | get key =>
      refine ⟨⟨_, rfl, fun text found => ?_⟩,
        fun kept member => truthful kept (MemoryStore.mem_of_mem_read member)⟩
      obtain ⟨entry, member, rfl⟩ := MemoryStore.exists_of_read found
      exact truthful _ member
    | set key text expiry =>
      refine ⟨rfl, fun kept member => ?_⟩
      rcases MemoryStore.mem_of_mem_write member with rfl | old
      · exact permitted
      · exact truthful kept old
  | start | commit | rollback | lastInsertId | pause => exact permitted.elim

variable (collisionFree : CollisionFree traffic.cached)
  (bound : ∀ rendered ∈ traffic.cached, ∀ entry ∈ rendered.params.entries, entry.2.IsFinite)
  (returned : ∀ index result, (traffic.fetches index).ReadsThrough →
    traffic.driver (traffic.fetches index).query = .ok result →
    ∀ row ∈ result.rows, ∀ value ∈ row, value.ReadsBack)

include collisionFree bound returned

/-- A truthful text under a fetch's own key is read as what the driver answers to it. -/
theorem Truthful.read {text : String} (reads : (traffic.fetches index).ReadsThrough)
    (truthful : traffic.Truthful ((traffic.fetches index).key traffic.config) text) :
    Json.readResult text = traffic.driver (traffic.fetches index).query := by
  obtain ⟨other, result, otherReads, keys, answered, rfl⟩ := truthful
  have cacheable : ∀ rendered ∈ traffic.cached, rendered.Cacheable := by
    rintro rendered ⟨someIndex, someReads, rfl⟩
    exact ⟨(traffic.fetches someIndex).distinct, bound _ ⟨someIndex, someReads, rfl⟩⟩
  have queries := (cacheKey_eq_iff collisionFree cacheable ⟨index, reads, rfl⟩
    ⟨other, otherReads, rfl⟩).1 keys
  have same : (traffic.fetches index).query = (traffic.fetches other).query := queries
  rw [same, answered]
  exact Json.readResult_ofResult (returned other result otherReads answered)

/-- The cached fetch of a result: at most two questions to the store before the query is run,
and one after it. -/
theorem lookUp_meets (reads : (traffic.fetches index).ReadsThrough) :
    ((traffic.fetches index).through traffic.config (ReadThrough.lookUp resultCodec
      ((traffic.fetches index).key traffic.config) (traffic.fetches index).ttl)).Meets
      (traffic.contract index) (· = traffic.driver (traffic.fetches index).query) 7 := by
  have filled : ((traffic.fetches index).through traffic.config (ReadThrough.fill resultCodec
      ((traffic.fetches index).key traffic.config) (traffic.fetches index).ttl)).Meets
      (traffic.contract index) (· = traffic.driver (traffic.fetches index).query) 5 := by
    refine Meets.bind 1 (executeBehind_meets none) ?_
    intro outcome answered
    rw [Option.getD_none, String.empty_append] at answered
    have own : outcome = traffic.driver (traffic.fetches index).query := answered
    cases outcome with
    | error failure => exact own
    | ok result =>
      refine ⟨⟨index, result, reads, rfl, own.symm, rfl⟩, ?_⟩
      rintro _ rfl
      exact own
  refine ⟨trivial, ?_⟩
  rintro _ ⟨found, rfl⟩
  cases found with
  | false => exact filled.mono (Nat.le_succ 5)
  | true =>
    refine ⟨trivial, ?_⟩
    rintro _ ⟨text, rfl, truthful⟩
    cases text with
    | none => exact filled
    | some text => exact (truthful text rfl).read collisionFree bound returned reads

theorem fetchResult_meets :
    (fetchResult traffic.config true (traffic.fetches index).select
      (traffic.fetches index).ttl).Meets (traffic.contract index)
      (· = traffic.driver (traffic.fetches index).led) 9 := by
  refine ⟨trivial, ?_⟩
  intro lead own
  cases lead with
  | some lead =>
    have led : (traffic.fetches index).led = { (traffic.fetches index).query with
        sql := (some lead).getD "" ++ (traffic.fetches index).query.sql } := by
      rw [Fetch.led, ← own]
    rw [led]
    exact (executeBehind_meets (some lead)).mono (show 3 ≤ 8 by decide)
  | none =>
    have led : (traffic.fetches index).led = (traffic.fetches index).query := by
      rw [Fetch.led, ← own, Option.getD_none, String.empty_append]
    rw [led]
    refine ⟨trivial, ?_⟩
    rintro ⟨kind, rendered⟩ relied
    obtain ⟨-, rfl⟩ := Prod.mk.inj relied
    rw [(traffic.fetches index).render_eq]
    show ((traffic.fetches index).through traffic.config
      (ReadThrough.fetch resultCodec true _ _ _)).Meets _ _ _
    unfold ReadThrough.fetch
    cases bypass : (traffic.fetches index).ttl.isBypass with
    | false => exact lookUp_meets collisionFree bound returned ⟨own.symm, bypass⟩
    | true =>
      refine Meets.bind 4 (executeBehind_meets none) ?_
      intro outcome answered
      rw [Option.getD_none, String.empty_append] at answered
      exact answered

/-- Every fetch ends with what the driver answers to its own query behind its own lead-in. -/
theorem fetch_meets :
    ((traffic.fetches index).dialogue traffic.config).Meets (traffic.contract index)
      (· = traffic.direct index) 9 := by
  rw [Fetch.dialogue, Flavour.fetch_eq_andThen]
  refine Meets.bind 0 (fetchResult_meets collisionFree bound returned) ?_
  rintro _ rfl
  rfl

end Meeting

section Running

variable [DecidableEq Index]

/-- One fetch goes on by one question or event. -/
def advance (index : Index) (now : Nat) (state : traffic.State) : traffic.State :=
  match state.pending index with
  | .done _ => state
  | .note _ next => { state with pending := Function.update state.pending index next }
  | .ask question next =>
    let (answer, store) := traffic.reply index now question state.store
    { store, pending := Function.update state.pending index (next answer) }

def turn (state : traffic.State) : Turn Index → traffic.State
  | .step index now => traffic.advance index now state
  | .forget key =>
    { state with store := { state.store with
      entries := MemoryStore.removeEntry key state.store.entries
      order := state.store.order.erase key } }

def run (turns : List (Turn Index)) (state : traffic.State) : traffic.State :=
  turns.foldl traffic.turn state

/-- Whether a turn belongs to a fetch. -/
def Turn.isStep (index : Index) : Turn Index → Bool
  | .step other _ => decide (other = index)
  | .forget _ => false

variable {traffic}

/-- What holds between two turns: the store is truthful, and every fetch keeps its contract in the
turns that are left to it. -/
structure Steady (state : traffic.State) (left : Index → Nat) : Prop where
  truthful : ∀ kept ∈ state.store.entries, traffic.Truthful kept.1 kept.2.text
  meets : ∀ index, (state.pending index).Meets (traffic.contract index)
    (· = traffic.direct index) (left index)

/-- A fetch that goes on as its contract says leaves all others where they are. -/
theorem Steady.goesOn {state : traffic.State} {left : Index → Nat} {index : Index} (now : Nat)
    {store : MemoryStore} {next : Run Select (traffic.fetches index).Out}
    (steady : Steady state left)
    (truthful : ∀ kept ∈ store.entries, traffic.Truthful kept.1 kept.2.text)
    (meets : next.Meets (traffic.contract index) (· = traffic.direct index) (left index - 1)) :
    Steady { store, pending := Function.update state.pending index next }
      (fun other => left other - if (Turn.step index now).isStep other then 1 else 0) where
  truthful := truthful
  meets := by
    intro other
    by_cases same : index = other
    · subst same
      simpa [Turn.isStep] using meets
    · simpa [Turn.isStep, same, Function.update_of_ne (Ne.symm same)] using steady.meets other

/-- One turn keeps everything steady, and uses up one of the turns of its fetch. -/
theorem Steady.turn {state : traffic.State} {left : Index → Nat} (steady : Steady state left)
    (turn : Turn Index) : Steady (traffic.turn state turn)
      (fun index => left index - if turn.isStep index then 1 else 0) := by
  cases turn with
  | forget key =>
    refine ⟨fun kept member => steady.truthful kept (MemoryStore.mem_of_mem_removeEntry member), ?_⟩
    exact fun index => steady.meets index
  | step index now =>
    have own := steady.meets index
    show Steady (traffic.advance index now state) _
    unfold advance
    split
    · next outcome ended =>
      rw [ended] at own
      have kept := steady.goesOn now steady.truthful (meets_done own.of_done)
      rwa [← ended, Function.update_eq_self] at kept
    · next event next pending =>
      rw [pending] at own
      cases turns : left index with
      | zero =>
        rw [turns] at own
        exact own.elim
      | succ more =>
        rw [turns] at own
        refine steady.goesOn now steady.truthful ?_
        rw [turns]
        exact own
    · next question next pending =>
      rw [pending] at own
      cases turns : left index with
      | zero =>
        rw [turns] at own
        exact own.elim
      | succ more =>
        rw [turns] at own
        obtain ⟨relied, truthful⟩ := reply_relied now own.1 steady.truthful
        refine steady.goesOn now truthful ?_
        rw [turns]
        exact own.2 _ relied

theorem Steady.run {state : traffic.State} {left : Index → Nat} (steady : Steady state left)
    (turns : List (Turn Index)) : Steady (traffic.run turns state)
      (fun index => left index - turns.countP (Turn.isStep index)) := by
  induction turns generalizing state left with
  | nil => exact steady
  | cons turn turns ih =>
    have later := ih (steady.turn turn)
    refine ⟨later.truthful, fun index => ?_⟩
    have meets := later.meets index
    rw [List.countP_cons]
    rwa [Nat.sub_sub, Nat.add_comm] at meets

end Running

/-- Fetches over one handle, in any interleaving and with any losses from the store: each ends
within nine turns of its own with exactly what its query gives when it is executed directly, and
every text in the store is the driver's answer to the query of its key. Moments are counted
without a bound, so a lifetime never leads beyond them. -/
theorem fetches_transparent [DecidableEq Index] (traffic : Traffic Index)
    (collisionFree : CollisionFree traffic.cached)
    (bound : ∀ rendered ∈ traffic.cached, ∀ entry ∈ rendered.params.entries, entry.2.IsFinite)
    (returned : ∀ index result, (traffic.fetches index).ReadsThrough →
      traffic.driver (traffic.fetches index).query = .ok result →
      ∀ row ∈ result.rows, ∀ value ∈ row, value.ReadsBack)
    (capacity : Nat) (turns : List (Turn Index)) :
    let state := traffic.run turns (traffic.start capacity)
    (∀ index outcome, state.pending index = .done outcome → outcome = traffic.direct index) ∧
    (∀ index, 9 ≤ turns.countP (Turn.isStep index) →
      state.pending index = .done (traffic.direct index)) ∧
    ∀ kept ∈ state.store.entries, traffic.Truthful kept.1 kept.2.text := by
  have begun : Steady (traffic.start capacity) fun _ => 9 :=
    ⟨nofun, fun index => fetch_meets collisionFree bound returned⟩
  have steady := begun.run turns
  refine ⟨?_, ?_, steady.truthful⟩
  · intro index outcome ended
    have meets := steady.meets index
    rw [ended] at meets
    exact meets.of_done
  · intro index enough
    have meets := steady.meets index
    rw [Nat.sub_eq_zero_of_le enough] at meets
    obtain ⟨outcome, ended, rfl⟩ := meets.of_zero
    exact ended

/-- Three fetches of items by price, one of them behind a lead-in, from a driver that answers with
the price it was given. -/
def racing : Traffic (Fin 3) where
  config := .standard
  fetches index :=
    { Out := List Record
      flavour := .all
      select := { Select.draft "items" .standard with
        filter := [.equal "price" (.value (.float ⟨0x3FE0000000000000⟩))] }
      reachable := .start rfl
      ttl := .persist
      lead := if index = 2 then some "EXPLAIN " else none }
  driver query :=
    match query.values ":p0" with
    | some value => .ok { columns := [query.sql], rows := [[value]] }
    | none => .error (.other "no price")

/-- What is left when each of them had nine turns. -/
def raced : racing.State :=
  racing.run (List.replicate 9 [.step 0 0, .step 1 0, .step 2 0]).flatten (racing.start 1)

/-- Two fetches that miss the same key at once both end with their own answer, as does the third
one past the cache. -/
theorem fetches_transparent_when_racing :
    raced.pending 0 = .done (racing.direct 0) ∧ raced.pending 1 = .done (racing.direct 1) ∧
      raced.pending 2 = .done (racing.direct 2) := by
  have finite : Double.isFinite ⟨0x3FE0000000000000⟩ = true := by decide
  have transparent := fetches_transparent racing
    (by
      refine Set.Subsingleton.injOn (Set.Subsingleton.image ?_ _) _
      rintro first ⟨_, -, rfl⟩ second ⟨_, -, rfl⟩
      rfl)
    (by
      rintro rendered ⟨index, -, rfl⟩ entry member
      rw [List.mem_singleton.1 member]
      exact finite)
    (by
      rintro index result - answered row inRows value inRow
      obtain rfl := (Except.ok.inj answered).symm
      rw [List.mem_singleton.1 inRows] at inRow
      rw [List.mem_singleton.1 inRow]
      exact ⟨finite, by decide +kernel⟩)
    1 (List.replicate 9 [.step 0 0, .step 1 0, .step 2 0]).flatten
  exact ⟨transparent.2.1 0 (by decide), transparent.2.1 1 (by decide),
    transparent.2.1 2 (by decide)⟩

end Traffic

end SqlWright
