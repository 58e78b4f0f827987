import SqlWright.Proofs.Cache.Fetching
import SqlWright.Proofs.Cache.Memory
import SqlWright.Proofs.Dialogue.Transcript
import Mathlib.Data.Finset.Card
/-! Fetches one after the other over one handle. As long as nothing is dropped or outlived, a query
is run when it is fetched for the first time and never again. -/
namespace SqlWright

open Session Dialogue

/-- A fetch in a sequence, with the moments at which it reaches the store. -/
structure Visit where
  fetch : Fetch
  hasAt : Nat
  getAt : Nat
  setAt : Nat

def Visit.moment (visit : Visit) : CacheStore.Question → Nat
  | .has _ => visit.hasAt
  | .get _ => visit.getAt
  | .set .. => visit.setAt

/-- A handle whose driver never fails; what it answers may change from call to call. -/
structure Handle (World : Type) where
  config : Config
  execute : String → Table → World → ResultSet × World

namespace Handle

variable {World : Type} (handle : Handle World)

/-- The collaborators of one visit. A fetch does not ask about transactions, insert ids or
pauses. -/
def respondent (visit : Visit) : Respondent (Session.interface Select) (MemoryStore × World) where
  answer
    | .rendering statement, state => ((.select, (Builder.render statement).1), state)
    | .takeLead, state => (visit.fetch.lead, state)
    | .execute sql params, (store, world) =>
      let (result, world) := handle.execute sql params world
      (.ok result, (store, world))
    | .store question, (store, world) =>
      let (answer, store) := store.answer (visit.moment question) question
      (answer, (store, world))
    | .start, state | .commit, state | .rollback, state => (.ok true, state)
    | .lastInsertId, state => (.ok none, state)
    | .pause _, state => ((), state)
  note _ state := state

/-- The questions of one visit. -/
structure Log where
  visit : Visit
  questions : List (Question Select)

def log (visit : Visit) (state : MemoryStore × World) : Log :=
  ⟨visit, ((visit.fetch.dialogue handle.config).transcript (handle.respondent visit) state).map
    Exchange.question⟩

def after (visit : Visit) (state : MemoryStore × World) : MemoryStore × World :=
  ((visit.fetch.dialogue handle.config).conduct (handle.respondent visit) state).2

/-- The visits in order, each from the state the one before it left. -/
def logs : List Visit → MemoryStore × World → List Log
  | [], _ => []
  | visit :: rest, state => handle.log visit state :: logs rest (handle.after visit state)

/-- What was sent to the driver. -/
def Log.sent (log : Log) : List (String × Table) :=
  log.questions.filterMap fun
    | .execute sql params => some (sql, params)
    | _ => none

/-- What was asked of the store. -/
def Log.stored (log : Log) : List CacheStore.Question :=
  log.questions.filterMap fun
    | .store question => some question
    | _ => none

section Visiting

variable {visit : Visit} {state final : MemoryStore × World}

private theorem answer_rendering (visit : Visit) (state : MemoryStore × World) :
    (handle.respondent visit).answer (.rendering visit.fetch.select) state =
      ((.select, visit.fetch.rendered), state) := by
  rw [← visit.fetch.render_eq]
  rfl

/-- Executing the select of a visit asks the driver once. -/
theorem executeBehind_runs (visit : Visit) (state : MemoryStore × World)
    (lead : Option String) : ∃ result world,
    Runs (handle.respondent visit) (executeBehind handle.config visit.fetch.select lead) state
      [.rendering visit.fetch.select,
        .execute (lead.getD "" ++ visit.fetch.rendered.sql) visit.fetch.rendered.params]
      (.ok result) (state.1, world) := by
  have sent (kind : Option StatementKind) : ∃ result world, Runs (handle.respondent visit)
      (send handle.config kind visit.fetch.rendered lead) state
      [.execute (lead.getD "" ++ visit.fetch.rendered.sql) visit.fetch.rendered.params]
      (.ok result) (state.1, world) := by
    unfold send
    simp only
    split
    · exact ⟨_, _, .note (.ask rfl .done)⟩
    · exact ⟨_, _, .ask rfl .done⟩
  obtain ⟨result, world, runs⟩ := sent (some .select)
  exact ⟨result, world, .ask (answer_rendering handle visit state) runs⟩

/-- The flavour of a fetch asks nothing, so a visit asks what the fetch of its result asks. -/
theorem visit_of_runs {questions : List (Question Select)} {outcome : Except Failure ResultSet}
    (runs : Runs (handle.respondent visit)
      (fetchResult handle.config true visit.fetch.select visit.fetch.ttl) state questions outcome
      final) :
    handle.log visit state = ⟨visit, questions⟩ ∧ handle.after visit state = final := by
  have whole : Runs (handle.respondent visit) (visit.fetch.dialogue handle.config) state
      (questions ++ []) (outcome.bind visit.fetch.flavour.view) final := by
    rw [Fetch.dialogue, Flavour.fetch_eq_andThen]
    exact runs.bind .done
  exact ⟨congrArg (Log.mk visit) (whole.asks.trans (List.append_nil _)),
    congrArg Prod.snd whole.ends⟩

/-- Where a lead-in is set, nothing but the led query is asked for. -/
theorem fetchResult_led (state : MemoryStore × World) {lead : String}
    (led : visit.fetch.lead = some lead) : ∃ result world,
    Runs (handle.respondent visit)
      (fetchResult handle.config true visit.fetch.select visit.fetch.ttl) state
      [.takeLead, .rendering visit.fetch.select,
        .execute (lead ++ visit.fetch.rendered.sql) visit.fetch.rendered.params]
      (.ok result) (state.1, world) := by
  have taken : (handle.respondent visit).answer .takeLead state = (some lead, state) := by
    rw [← led]
    rfl
  obtain ⟨result, world, runs⟩ := executeBehind_runs handle visit state (some lead)
  exact ⟨result, world, .ask taken runs⟩

/-- Without a lead-in the fetch goes on with the cached query. -/
theorem fetchResult_plain (plain : visit.fetch.lead = none) {questions : List (Question Select)}
    {outcome : Except Failure ResultSet}
    (runs : Runs (handle.respondent visit) (visit.fetch.through handle.config
      (ReadThrough.fetch resultCodec true handle.config.cacheKeyPrefix visit.fetch.rendered
        visit.fetch.ttl)) state questions outcome final) :
    Runs (handle.respondent visit)
      (fetchResult handle.config true visit.fetch.select visit.fetch.ttl) state
      (.takeLead :: .rendering visit.fetch.select :: questions) outcome final := by
  have taken : (handle.respondent visit).answer .takeLead state = (none, state) := by
    rw [← plain]
    rfl
  exact .ask taken (.ask (answer_rendering handle visit state) runs)

/-- A fetch past the cache: its query is sent once, and the store is not touched. -/
theorem visit_past (state : MemoryStore × World) (past : ¬ visit.fetch.ReadsThrough) :
    (handle.log visit state).sent = [(visit.fetch.led.sql, visit.fetch.rendered.params)] ∧
      (handle.log visit state).stored = [] ∧ (handle.after visit state).1 = state.1 := by
  have led : visit.fetch.led.sql = visit.fetch.lead.getD "" ++ visit.fetch.rendered.sql := rfl
  rw [led]
  cases lead : visit.fetch.lead with
  | some lead =>
    obtain ⟨result, world, runs⟩ := fetchResult_led handle state lead
    obtain ⟨questions, final⟩ := visit_of_runs handle runs
    rw [questions, final]
    exact ⟨rfl, rfl, rfl⟩
  | none =>
    have bypass : visit.fetch.ttl.isBypass = true := by
      by_contra caches
      exact past ⟨lead, by simpa using caches⟩
    obtain ⟨result, world, runs⟩ :=
      executeBehind_runs handle visit state none
    have direct := Runs.bind runs .done
    obtain ⟨questions, final⟩ := visit_of_runs handle (fetchResult_plain handle lead (by
      rw [ReadThrough.fetch, bypass]
      exact direct))
    rw [questions, final]
    exact ⟨rfl, rfl, rfl⟩

/-- A fetch that reads through goes on with looking its key up. -/
theorem visit_of_lookUp (reads : visit.fetch.ReadsThrough) {questions : List (Question Select)}
    {outcome : Except Failure ResultSet}
    (runs : Runs (handle.respondent visit) (visit.fetch.through handle.config
      (ReadThrough.lookUp resultCodec (visit.fetch.key handle.config) visit.fetch.ttl)) state
      questions outcome final) :
    handle.log visit state =
        ⟨visit, .takeLead :: .rendering visit.fetch.select :: questions⟩ ∧
      handle.after visit state = final := by
  have through : Runs (handle.respondent visit) (visit.fetch.through handle.config
      (ReadThrough.fetch resultCodec true handle.config.cacheKeyPrefix visit.fetch.rendered
        visit.fetch.ttl)) state questions outcome final := by
    rw [ReadThrough.fetch, reads.2]
    exact runs
  exact visit_of_runs handle (fetchResult_plain handle reads.1 through)

/-- A fetch that finds a live text: nothing is sent, and only the order of use changes. -/
theorem visit_hit {entry : MemoryEntry} (reads : visit.fetch.ReadsThrough)
    (held : MemoryStore.entry? state.1 (visit.fetch.key handle.config) = some entry)
    (liveFirst : entry.isLive visit.hasAt = true) (liveAgain : entry.isLive visit.getAt = true) :
    (handle.log visit state).sent = [] ∧
      ∃ order, (handle.after visit state).1 = { state.1 with order } := by
  obtain ⟨store, world⟩ := state
  let key := visit.fetch.key handle.config
  let once : MemoryStore := { store with order := MemoryStore.touch key store.order }
  let twice : MemoryStore := { once with order := MemoryStore.touch key once.order }
  have found : (handle.respondent visit).answer (.store (.has key)) (store, world) =
      (.ok true, (once, world)) := by
    show (Except.ok (store.read visit.hasAt key).1.isSome,
      (store.read visit.hasAt key).2, world) = _
    rw [MemoryStore.read_live held liveFirst]
    rfl
  have got : (handle.respondent visit).answer (.store (.get key)) (once, world) =
      (.ok (some entry.text), (twice, world)) := by
    have stillHeld : MemoryStore.entry? once key = some entry := held
    show (Except.ok (once.read visit.getAt key).1, (once.read visit.getAt key).2, world) = _
    rw [MemoryStore.read_live stillHeld liveAgain]
    rfl
  obtain ⟨questions, final⟩ := visit_of_lookUp handle reads
    (.ask found (.ask got (.note .done)))
  rw [questions, final]
  exact ⟨rfl, twice.order, rfl⟩

/-- A fetch that finds nothing: its query is sent once, and its result is kept. -/
theorem visit_miss (reads : visit.fetch.ReadsThrough)
    (absent : visit.fetch.key handle.config ∉ state.1.keys) :
    (handle.log visit state).sent = [(visit.fetch.query.sql, visit.fetch.rendered.params)] ∧
      ∃ text, (handle.after visit state).1 =
        state.1.write visit.setAt (visit.fetch.key handle.config) text visit.fetch.ttl.expiry := by
  obtain ⟨store, world⟩ := state
  have missed : (handle.respondent visit).answer (.store (.has (visit.fetch.key handle.config)))
      (store, world) = (.ok false, (store, world)) := by
    show (Except.ok (store.read visit.hasAt _).1.isSome, (store.read visit.hasAt _).2, world) = _
    rw [MemoryStore.read_absent absent]
    rfl
  obtain ⟨result, later, runs⟩ :=
    executeBehind_runs handle visit (store, world) none
  obtain ⟨questions, final⟩ := visit_of_lookUp handle reads
    (.ask missed (.note (.bind runs (.ask rfl .done))))
  rw [questions, final]
  exact ⟨rfl, _, rfl⟩

end Visiting

section Running

/-- The statements that are cached in the course of these visits. -/
def cached (visits : List Visit) : Set Rendered :=
  {rendered | ∃ visit ∈ visits, visit.fetch.ReadsThrough ∧ rendered = visit.fetch.rendered}

/-- The distinct keys under which they are cached. -/
def usedKeys (visits : List Visit) : Finset String :=
  ((visits.filter (·.fetch.ReadsThrough)).map (·.fetch.key handle.config)).toFinset

/-- What an earlier visit keeps is still live when a later one looks for it. -/
def Outlives (earlier later : Visit) : Prop :=
  earlier.fetch.ReadsThrough → later.fetch.ReadsThrough →
    ∀ lifetime ∈ earlier.fetch.ttl.expiry,
      later.hasAt < earlier.setAt + lifetime ∧ later.getAt < earlier.setAt + lifetime

/-- The queries that were sent to the driver by visits that read through the cache. -/
def sentQueries (logs : List Log) : List Query :=
  (logs.filter (·.visit.fetch.ReadsThrough)).flatMap fun log =>
    log.sent.map fun sent => ⟨sent.1, sent.2.valueOf⟩

theorem sentQueries_cons (log : Log) (logs : List Log) : sentQueries (log :: logs) =
    (if log.visit.fetch.ReadsThrough then
      log.sent.map fun sent => ⟨sent.1, sent.2.valueOf⟩ else []) ++ sentQueries logs := by
  unfold sentQueries
  split <;> simp [*]

/-- What the store holds between two visits: one live text for every query that was fetched, and
nothing else. -/
structure Settled (visits past future : List Visit) (store : MemoryStore) : Prop where
  visited : past ++ future = visits
  room : (handle.usedKeys visits).card ≤ store.capacity
  distinct : store.keys.Nodup
  keys : ∀ key, key ∈ store.keys ↔
    ∃ visit ∈ past, visit.fetch.ReadsThrough ∧ visit.fetch.key handle.config = key
  live : ∀ kept ∈ store.entries, ∀ later ∈ future, later.fetch.ReadsThrough →
    kept.2.isLive later.hasAt = true ∧ kept.2.isLive later.getAt = true

variable {handle} {visits past future : List Visit} {visit : Visit} {state : MemoryStore × World}

/-- A new key still fits into the store. -/
theorem Settled.length_lt (settled : handle.Settled visits past (visit :: future) state.1)
    (reads : visit.fetch.ReadsThrough) (absent : visit.fetch.key handle.config ∉ state.1.keys) :
    state.1.entries.length < state.1.capacity := by
  have mem_used : ∀ other ∈ visits, other.fetch.ReadsThrough →
      other.fetch.key handle.config ∈ handle.usedKeys visits := by
    intro other member otherReads
    exact List.mem_toFinset.2 (List.mem_map.2 ⟨other, List.mem_filter.2
      ⟨member, decide_eq_true otherReads⟩, rfl⟩)
  have own : visit.fetch.key handle.config ∈ handle.usedKeys visits :=
    mem_used visit (by simp [← settled.visited]) reads
  have subset : insert (visit.fetch.key handle.config) state.1.keys.toFinset ⊆
      handle.usedKeys visits := by
    intro key member
    rcases Finset.mem_insert.1 member with rfl | inStore
    · exact own
    · obtain ⟨other, inPast, otherReads, rfl⟩ :=
        (settled.keys key).1 (List.mem_toFinset.1 inStore)
      exact mem_used other (by simp [← settled.visited, inPast]) otherReads
  have card := (Finset.card_le_card subset).trans settled.room
  rw [Finset.card_insert_of_notMem (by simpa using absent),
    List.toFinset_card_of_nodup settled.distinct] at card
  rw [MemoryStore.keys, List.length_map] at card
  exact card

/-- A fetch whose key is kept finds it. -/
theorem Settled.hit (settled : handle.Settled visits past (visit :: future) state.1)
    (reads : visit.fetch.ReadsThrough) (present : visit.fetch.key handle.config ∈ state.1.keys) :
    (handle.log visit state).sent = [] ∧
      ∃ order, (handle.after visit state).1 = { state.1 with order } := by
  obtain ⟨entry, held⟩ := Option.ne_none_iff_exists'.1
    (MemoryStore.entry_eq_none.not.2 (not_not.2 present))
  obtain ⟨liveFirst, liveAgain⟩ := settled.live _ (MemoryStore.mem_of_entry held) visit
    List.mem_cons_self reads
  exact visit_hit handle reads held liveFirst liveAgain

/-- A visit that adds nothing leaves the store settled if its own key was kept before. -/
private theorem Settled.unchanged (settled : handle.Settled visits past (visit :: future) state.1)
    (known : visit.fetch.ReadsThrough → visit.fetch.key handle.config ∈ state.1.keys)
    {store : MemoryStore} (entries : store.entries = state.1.entries)
    (capacity : store.capacity = state.1.capacity) :
    handle.Settled visits (past ++ [visit]) future store := by
  have keys : store.keys = state.1.keys := congrArg (List.map Prod.fst) entries
  refine ⟨?_, ?_, ?_, fun key => ?_, fun kept member other inFuture => ?_⟩
  · simp [← settled.visited]
  · rw [capacity]
    exact settled.room
  · rw [keys]
    exact settled.distinct
  · rw [keys, settled.keys]
    constructor
    · rintro ⟨other, inPast, own⟩
      exact ⟨other, List.mem_append_left _ inPast, own⟩
    · rintro ⟨other, member, otherReads, rfl⟩
      rcases List.mem_append.1 member with inPast | isVisit
      · exact ⟨other, inPast, otherReads, rfl⟩
      · obtain rfl := List.mem_singleton.1 isVisit
        exact (settled.keys _).1 (known otherReads)
  · rw [entries] at member
    exact settled.live kept member other (List.mem_cons_of_mem _ inFuture)

/-- A visit that finds nothing adds its own key, whose text outlives the visits to come. -/
private theorem Settled.added (settled : handle.Settled visits past (visit :: future) state.1)
    (reads : visit.fetch.ReadsThrough) (absent : visit.fetch.key handle.config ∉ state.1.keys)
    (outlives : ∀ later ∈ future, Outlives visit later) (text : String) :
    handle.Settled visits (past ++ [visit]) future
      (state.1.write visit.setAt (visit.fetch.key handle.config) text visit.fetch.ttl.expiry) := by
  rw [MemoryStore.write_absent absent (settled.length_lt reads absent)]
  refine ⟨?_, settled.room, ?_, fun key => ?_, fun kept member other inFuture reading => ?_⟩
  · simp [← settled.visited]
  · rw [MemoryStore.keys, List.map_append, List.map_singleton]
    exact settled.distinct.append (List.nodup_singleton _) (by simpa using absent)
  · rw [MemoryStore.keys, List.map_append, List.map_singleton, List.mem_append,
      List.mem_singleton]
    refine (or_congr (settled.keys key) eq_comm).trans ?_
    simp [or_and_right, exists_or, reads]
  · rcases List.mem_append.1 member with old | new
    · exact settled.live kept old other (List.mem_cons_of_mem _ inFuture) reading
    · obtain rfl := List.mem_singleton.1 new
      have later := outlives other inFuture reads reading
      cases lifetime : visit.fetch.ttl.expiry with
      | none => exact ⟨rfl, rfl⟩
      | some lifetime =>
        obtain ⟨first, again⟩ := later _ lifetime
        exact ⟨decide_eq_true first, decide_eq_true again⟩

/-- After a visit its query is kept, whether it was before or not. -/
theorem Settled.next (settled : handle.Settled visits past (visit :: future) state.1)
    (unexpired : visits.Pairwise Outlives) :
    handle.Settled visits (past ++ [visit]) future (handle.after visit state).1 := by
  by_cases reads : visit.fetch.ReadsThrough
  · by_cases present : visit.fetch.key handle.config ∈ state.1.keys
    · obtain ⟨-, order, same⟩ := settled.hit reads present
      rw [same]
      exact settled.unchanged (fun _ => present) rfl rfl
    · have pairs := unexpired
      rw [← settled.visited, List.pairwise_append, List.pairwise_cons] at pairs
      obtain ⟨-, text, same⟩ := visit_miss handle reads present
      rw [same]
      exact settled.added reads present pairs.2.1.1 text
  · obtain ⟨-, -, same⟩ := visit_past handle state reads
    rw [same]
    exact settled.unchanged (fun own => absurd own reads) rfl rfl

/-- Whether one of the visits reads a query through the cache. -/
def Fetched (visits : List Visit) (query : Query) : Prop :=
  ∃ visit ∈ visits, visit.fetch.ReadsThrough ∧ visit.fetch.query = query

variable (sameKey : ∀ first ∈ visits, first.fetch.ReadsThrough → ∀ second ∈ visits,
  second.fetch.ReadsThrough → (first.fetch.key handle.config = second.fetch.key handle.config ↔
    first.fetch.query = second.fetch.query))

include sameKey

theorem Settled.mem_keys_iff (settled : handle.Settled visits past (visit :: future) state.1)
    (reads : visit.fetch.ReadsThrough) :
    visit.fetch.key handle.config ∈ state.1.keys ↔ Fetched past visit.fetch.query := by
  have own : visit ∈ visits := by simp [← settled.visited]
  rw [settled.keys]
  constructor
  · rintro ⟨other, inPast, otherReads, same⟩
    have member : other ∈ visits := by simp [← settled.visited, inPast]
    exact ⟨other, inPast, otherReads, (sameKey other member otherReads visit own reads).1 same⟩
  · rintro ⟨other, inPast, otherReads, same⟩
    have member : other ∈ visits := by simp [← settled.visited, inPast]
    exact ⟨other, inPast, otherReads, (sameKey other member otherReads visit own reads).2 same⟩

/-- A visit sends its query for the cache if and only if it is the first one with it. -/
theorem Settled.sentQueries_visit
    (settled : handle.Settled visits past (visit :: future) state.1) :
    (sentQueries [handle.log visit state]).Nodup ∧
      ∀ query, query ∈ sentQueries [handle.log visit state] ↔
        Fetched [visit] query ∧ ¬ Fetched past query := by
  have fetched (query : Query) : Fetched [visit] query ↔
      visit.fetch.ReadsThrough ∧ visit.fetch.query = query := by simp [Fetched]
  simp only [fetched]
  rw [sentQueries_cons]
  by_cases reads : visit.fetch.ReadsThrough
  · have reading : (handle.log visit state).visit.fetch.ReadsThrough := reads
    rw [if_pos reading]
    have known := settled.mem_keys_iff sameKey reads
    by_cases present : visit.fetch.key handle.config ∈ state.1.keys
    · obtain ⟨nothing, -⟩ := settled.hit reads present
      rw [nothing]
      refine ⟨List.nodup_nil, fun query => iff_of_false List.not_mem_nil ?_⟩
      rintro ⟨⟨-, rfl⟩, unfetched⟩
      exact unfetched (known.1 present)
    · obtain ⟨once, -⟩ := visit_miss handle reads present
      rw [once]
      refine ⟨List.nodup_singleton _, fun query => ?_⟩
      constructor
      · intro member
        obtain rfl : query = visit.fetch.query := List.mem_singleton.1 member
        exact ⟨⟨reads, rfl⟩, known.not.1 present⟩
      · rintro ⟨⟨-, rfl⟩, -⟩
        exact List.mem_singleton.2 rfl
  · have silent : ¬ (handle.log visit state).visit.fetch.ReadsThrough := reads
    rw [if_neg silent]
    exact ⟨List.nodup_nil, fun query => iff_of_false List.not_mem_nil fun own => reads own.1.1⟩

/-- The queries sent by the visits that are left are those not fetched before, each once. -/
theorem Settled.sentQueries_logs (settled : handle.Settled visits past future state.1)
    (unexpired : visits.Pairwise Outlives) :
    (sentQueries (handle.logs future state)).Nodup ∧
      ∀ query, query ∈ sentQueries (handle.logs future state) ↔
        Fetched future query ∧ ¬ Fetched past query := by
  induction future generalizing past state with
  | nil => exact ⟨List.nodup_nil, by simp [logs, sentQueries, Fetched]⟩
  | cons visit future ih =>
    obtain ⟨once, now⟩ := settled.sentQueries_visit sameKey
    obtain ⟨distinct, later⟩ := ih (settled.next unexpired)
    have split : sentQueries (handle.logs (visit :: future) state) =
        sentQueries [handle.log visit state] ++
          sentQueries (handle.logs future (handle.after visit state)) := by
      rw [logs, sentQueries_cons, sentQueries_cons _ []]
      exact congrArg (· ++ _) (List.append_nil _).symm
    have known (query : Query) :
        Fetched (past ++ [visit]) query ↔ Fetched past query ∨ Fetched [visit] query := by
      simp [Fetched, or_and_right, exists_or]
    have wanted (query : Query) :
        Fetched (visit :: future) query ↔ Fetched [visit] query ∨ Fetched future query := by
      simp [Fetched]
    rw [split]
    refine ⟨once.append distinct ?_, fun query => ?_⟩
    · intro query inFirst inRest
      exact ((later query).1 inRest).2 ((known query).2 (.inr ((now query).1 inFirst).1))
    · rw [List.mem_append, now, later, known, wanted]
      tauto

end Running

section Whole

variable {handle} {visits : List Visit} {state : MemoryStore × World}

theorem logs_visit : (handle.logs visits state).map Log.visit = visits := by
  induction visits generalizing state with
  | nil => rfl
  | cons visit visits ih => exact congrArg (visit :: ·) ih

theorem logs_past : ∀ log ∈ handle.logs visits state, ¬ log.visit.fetch.ReadsThrough →
    log.sent = [(log.visit.fetch.led.sql, log.visit.fetch.rendered.params)] ∧
      log.stored = [] := by
  induction visits generalizing state with
  | nil => nofun
  | cons visit visits ih =>
    intro log member past
    rcases List.mem_cons.1 member with rfl | later
    · obtain ⟨sent, stored, -⟩ := visit_past handle state past
      exact ⟨sent, stored⟩
    · exact ih log later past

theorem settled_empty {capacity : Nat} (room : (handle.usedKeys visits).card ≤ capacity) :
    handle.Settled visits [] visits (.empty capacity) where
  visited := rfl
  room := room
  distinct := List.nodup_nil
  keys _ := ⟨nofun, nofun⟩
  live := nofun

end Whole

/-- Fetches one after the other over a store that begins empty, with room for all their keys and
with lifetimes that last to the end: whatever their flavours, every query that is read through the
cache is sent to the driver once. A fetch past the cache is sent once itself and asks nothing of
the store. Moments are counted without a bound, so a lifetime never leads beyond them. -/
theorem query_sent_once (handle : Handle World) (visits : List Visit) (world : World)
    (capacity : Nat) (collisionFree : CollisionFree (cached visits))
    (bound : ∀ rendered ∈ cached visits, ∀ entry ∈ rendered.params.entries, entry.2.IsFinite)
    (room : (handle.usedKeys visits).card ≤ capacity) (unexpired : visits.Pairwise Outlives) :
    let logs := handle.logs visits (.empty capacity, world)
    logs.map Log.visit = visits ∧
    (sentQueries logs).Nodup ∧
    (∀ query, query ∈ sentQueries logs ↔ Fetched visits query) ∧
    ∀ log ∈ logs, ¬ log.visit.fetch.ReadsThrough →
      log.sent = [(log.visit.fetch.led.sql, log.visit.fetch.rendered.params)] ∧
        log.stored = [] := by
  have cacheable : ∀ rendered ∈ cached visits, rendered.Cacheable := by
    rintro rendered ⟨visit, member, reads, rfl⟩
    exact ⟨visit.fetch.distinct, bound _ ⟨visit, member, reads, rfl⟩⟩
  have sameKey : ∀ first ∈ visits, first.fetch.ReadsThrough → ∀ second ∈ visits,
      second.fetch.ReadsThrough → (first.fetch.key handle.config = second.fetch.key handle.config ↔
        first.fetch.query = second.fetch.query) :=
    fun first inVisits reads second alsoIn alsoReads => cacheKey_eq_iff collisionFree cacheable
      ⟨first, inVisits, reads, rfl⟩ ⟨second, alsoIn, alsoReads, rfl⟩
  have begun : handle.Settled visits [] visits (MemoryStore.empty capacity, world).1 :=
    settled_empty room
  obtain ⟨distinct, sent⟩ := begun.sentQueries_logs sameKey unexpired
  refine ⟨logs_visit, distinct, fun query => ?_, logs_past⟩
  rw [sent]
  simp [Fetched]

/-- A driver that answers with the number of the call. -/
def counting : Handle Nat where
  config := .standard
  execute _ _ calls := ({ columns := ["calls"], rows := [[.int (Int64.ofNat calls)]] }, calls + 1)

def named {Out : Type} (flavour : Flavour Out) (ttl : CacheTtl) (lead : Option String) : Fetch where
  Out := Out
  flavour := flavour
  select := { Select.draft "users" .standard with filter := [.equal "name" (.value (.text "ann"))] }
  reachable := .start rfl
  ttl := ttl
  lead := lead

/-- One select in several flavours: the second visit skips the cache, the fourth explains it. -/
def tour : List Visit :=
  [⟨named .all (.expire 60) none, 0, 0, 1⟩, ⟨named .first .bypass none, 2, 2, 2⟩,
    ⟨named (.column 0) .persist none, 3, 3, 3⟩, ⟨named .all .persist (some "EXPLAIN "), 4, 4, 4⟩,
    ⟨named .first (.expire 60) none, 5, 5, 5⟩]

/-- Three fetches read the one query of these visits through the cache, and it is sent once. -/
theorem query_sent_once_on_tour :
    sentQueries (counting.logs tour (.empty 1, 0)) = [(named .all .persist none).query] ∧
      ∀ log ∈ counting.logs tour (.empty 1, 0), ¬ log.visit.fetch.ReadsThrough →
        log.sent.length = 1 ∧ log.stored = [] := by
  have same : ∀ visit ∈ tour, visit.fetch.rendered = (named .all .persist none).rendered := by
    simp only [tour, List.forall_mem_cons]
    exact ⟨rfl, rfl, rfl, rfl, rfl, nofun⟩
  have once := query_sent_once counting tour 0 1
    (by
      refine Set.Subsingleton.injOn (Set.Subsingleton.image ?_ _) _
      rintro _ ⟨first, inTour, -, rfl⟩ _ ⟨second, alsoIn, -, rfl⟩
      rw [same first inTour, same second alsoIn])
    (by
      rintro _ ⟨visit, inTour, -, rfl⟩ entry member
      rw [same visit inTour] at member
      rw [List.mem_singleton.1 member]
      trivial)
    (by
      refine Finset.card_le_one.2 ?_
      have own : ∀ key ∈ counting.usedKeys tour,
          key = (named .all .persist none).key counting.config := by
        intro key inUse
        obtain ⟨visit, member, rfl⟩ := List.mem_map.1 (List.mem_toFinset.1 inUse)
        rw [Fetch.key, Fetch.key, same visit (List.mem_of_mem_filter member)]
      exact fun first inFirst second inSecond =>
        (own first inFirst).trans (own second inSecond).symm)
    (by simp [tour, Outlives, named, CacheTtl.expiry])
  obtain ⟨-, distinct, sent, past⟩ := once
  refine ⟨?_, fun log member skips => ?_⟩
  · refine List.perm_singleton.1
      ((List.perm_ext_iff_of_nodup distinct (List.nodup_singleton _)).2 fun query => ?_)
    rw [sent, List.mem_singleton]
    constructor
    · rintro ⟨visit, inTour, -, rfl⟩
      exact congrArg Rendered.query (same visit inTour)
    · rintro rfl
      exact ⟨_, List.mem_cons_self, by decide, rfl⟩
  · obtain ⟨alone, silent⟩ := past log member skips
    exact ⟨congrArg List.length alone, silent⟩

end Handle

end SqlWright
