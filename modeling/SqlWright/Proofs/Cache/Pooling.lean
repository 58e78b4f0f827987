import SqlWright.Cache.ReadThrough
import SqlWright.Proofs.Dialogue.Simulation
import Mathlib.Logic.Function.Basic
/-! Pools of items and plain stores. A pool that gives back what was saved in it serves as a store
that cannot be told from a plain map, neither by its own answers nor by what is fetched through
it. -/
namespace SqlWright

/-- A pool that gives back the item saved last under a key, or else a miss with that key. Whatever
more it keeps, only saving changes its items. -/
structure LawfulPool (State : Type) where
  respondent : Respondent CachePool.interface State
  saved : State → String → Option CacheItem
  getItem_answer : ∀ state key, (respondent.answer (.getItem key) state).1 =
    .ok ((saved state key).getD (.miss key))
  getItem_saved : ∀ state key, saved (respondent.answer (.getItem key) state).2 = saved state
  hasItem_answer : ∀ state key, (respondent.answer (.hasItem key) state).1 =
    .ok (saved state key).isSome
  hasItem_saved : ∀ state key, saved (respondent.answer (.hasItem key) state).2 = saved state
  save_answer : ∀ state item, (respondent.answer (.save item) state).1 = .ok ()
  save_saved : ∀ state item, saved (respondent.answer (.save item) state).2 =
    Function.update (saved state) item.key (some item)
  note_saved : ∀ state event, saved (respondent.note event state) = saved state

/-- A text and its lifetime under each key. -/
abbrev PlainMap := String → Option (String × Option Nat)

namespace PlainMap

variable {key : String} {questions : List CacheStore.Question} {map : PlainMap}

def respondent : Respondent CacheStore.interface PlainMap where
  answer
    | .has key, map => (.ok (map key).isSome, map)
    | .get key, map => (.ok ((map key).map (·.1)), map)
    | .set key text expiry, map => (.ok (), Function.update map key (some (text, expiry)))
  note _ map := map

/-- The text set last under a key, with its lifetime. -/
def lastSet (key : String) : List CacheStore.Question → Option (String × Option Nat)
  | [] => none
  | .set other text expiry :: rest =>
    (lastSet key rest).or (if key = other then some (text, expiry) else none)
  | .has _ :: rest => lastSet key rest
  | .get _ :: rest => lastSet key rest

/-- A map holds what was set last, and else what it held at the start. -/
theorem after_eq_lastSet :
    respondent.after questions map key = (lastSet key questions).or (map key) := by
  induction questions generalizing map with
  | nil => rfl
  | cons question rest ih =>
    cases question with
    | has other => exact ih
    | get other => exact ih
    | set other text expiry =>
      refine (@ih (Function.update map other (some (text, expiry)))).trans ?_
      rw [lastSet, Option.or_assoc, Function.update_apply]
      split <;> rfl

end PlainMap

namespace LawfulPool

variable {State : Type} (pool : LawfulPool State)

/-- The pool as a store. -/
def asStore : Respondent CacheStore.interface State where
  answer question := (CachePool.asStore question).conduct pool.respondent
  note := pool.respondent.note

/-- The items of the pool are the entries of the map, each under its own key and filled. -/
def Mirrors (state : State) (map : PlainMap) : Prop :=
  ∀ key, pool.saved state key = (map key).map fun kept => ⟨key, some kept.1, kept.2⟩

variable {pool} {state : State} {map : PlainMap}

theorem Mirrors.of_saved_eq {after : State} (mirrors : pool.Mirrors state map)
    (same : pool.saved after = pool.saved state) : pool.Mirrors after map :=
  fun key => same ▸ mirrors key

/-- The item fetched for a key carries that key and the text of the map, if there is one. -/
theorem Mirrors.exists_fetched (mirrors : pool.Mirrors state map) (key : String) :
    ∃ item after, pool.respondent.answer (.getItem key) state = (.ok item, after) ∧
      item.key = key ∧ item.text = (map key).map (·.1) ∧ pool.Mirrors after map := by
  refine ⟨_, _, Prod.ext (pool.getItem_answer state key) rfl, ?_, ?_,
    mirrors.of_saved_eq (pool.getItem_saved state key)⟩
  · rw [mirrors key]
    cases map key <;> rfl
  · rw [mirrors key]
    cases map key <;> rfl

/-- Saving an item that was filled is setting its text in the map. -/
theorem Mirrors.save (mirrors : pool.Mirrors state map) (item : CacheItem) (text : String)
    (expiry : Option Nat) :
    pool.Mirrors
      (pool.respondent.answer (.save ((item.set text).expiresAfter expiry)) state).2
      (Function.update map item.key (some (text, expiry))) := by
  intro other
  rw [pool.save_saved]
  by_cases same : other = item.key
  -- Filling replaces the text and the lifetime: of the old item only its key is saved again.
  · subst same
    simp [CacheItem.set, CacheItem.expiresAfter]
  · have notSaved : other ≠ ((item.set text).expiresAfter expiry).key := same
    rw [Function.update_of_ne notSaved, Function.update_of_ne same, mirrors other]

theorem asStore_simulates (pool : LawfulPool State) :
    pool.asStore.Simulates PlainMap.respondent pool.Mirrors where
  answer := by
    intro state map mirrors question
    cases question with
    | has key =>
      refine ⟨?_, mirrors.of_saved_eq (pool.hasItem_saved state key)⟩
      refine (pool.hasItem_answer state key).trans ?_
      rw [mirrors key, Option.isSome_map]
      rfl
    | get key =>
      obtain ⟨item, after, fetched, -, text, next⟩ := mirrors.exists_fetched key
      simp only [asStore, CachePool.asStore, Dialogue.conduct, fetched]
      exact ⟨congrArg Except.ok text, next⟩
    | set key text expiry =>
      obtain ⟨item, after, fetched, rfl, -, next⟩ := mirrors.exists_fetched key
      simp only [asStore, CachePool.asStore, Dialogue.conduct, fetched]
      exact ⟨pool.save_answer .., next.save item text expiry⟩
  note mirrors event := mirrors.of_saved_eq (pool.note_saved _ event)

end LawfulPool

/-- A fetch through the cache, whose query runs against a world that it may change. -/
structure CachedFetch (World : Type) where
  Result : Type
  codec : CacheCodec Result
  keyPrefix : String
  rendered : Rendered
  ttl : CacheTtl
  exec : World → Except Failure Result × World

namespace CachedFetch

variable {State Other World : Type}

/-- What comes of a fetch, and what it asked for: of the store, and whether it ran its query. -/
structure Report (fetch : CachedFetch World) where
  outcome : Except Failure fetch.Result
  asked : List (Reply (ReadThrough.interface fetch.Result))

def dialogue (fetch : CachedFetch World) :
    Dialogue (ReadThrough.interface fetch.Result) (Except Failure fetch.Result) :=
  ReadThrough.fetch fetch.codec true fetch.keyPrefix fetch.rendered fetch.ttl

/-- The store answers for the cache and the world for the query. -/
def against (fetch : CachedFetch World) (store : Respondent CacheStore.interface State) :
    Respondent (ReadThrough.interface fetch.Result) (State × World) where
  answer
    | .store question, (state, world) =>
      let (answer, state) := store.answer question state
      (answer, (state, world))
    | .run, (state, world) =>
      let (answer, world) := fetch.exec world
      (answer, (state, world))
  note event both := (store.note event both.1, both.2)

/-- The reports of fetches made one after the other. -/
def reports (store : Respondent CacheStore.interface State) :
    List (CachedFetch World) → State × World → List ((fetch : CachedFetch World) × fetch.Report)
  | [], _ => []
  | fetch :: rest, both =>
    let ending := fetch.dialogue.conduct (fetch.against store) both
    ⟨fetch, ending.1, fetch.dialogue.replies (fetch.against store) both⟩ ::
      reports store rest ending.2

section Stores

variable {store : Respondent CacheStore.interface State}
  {otherStore : Respondent CacheStore.interface Other} {related : State → Other → Prop}

theorem against_simulates (simulates : store.Simulates otherStore related)
    (fetch : CachedFetch World) :
    (fetch.against store).Simulates (fetch.against otherStore) fun both otherBoth =>
      related both.1 otherBoth.1 ∧ both.2 = otherBoth.2 where
  answer := by
    rintro ⟨state, world⟩ ⟨other, _⟩ ⟨start, rfl⟩ question
    cases question with
    | store question =>
      obtain ⟨same, next⟩ := simulates.answer start question
      exact ⟨same, next, rfl⟩
    | run => exact ⟨rfl, start, rfl⟩
  note start event := ⟨simulates.note start.1 event, start.2⟩

/-- Fetches cannot tell two stores apart that answer alike. -/
theorem reports_eq (simulates : store.Simulates otherStore related)
    (fetches : List (CachedFetch World)) {both : State × World} {otherBoth : Other × World}
    (start : related both.1 otherBoth.1 ∧ both.2 = otherBoth.2) :
    reports store fetches both = reports otherStore fetches otherBoth := by
  induction fetches generalizing both otherBoth with
  | nil => rfl
  | cons fetch rest ih =>
    obtain ⟨asked, outcome, final⟩ :=
      (against_simulates simulates fetch).dialogue start fetch.dialogue
    simp only [reports, asked, outcome, ih final]

end Stores

end CachedFetch

/-- A lawful pool serves as a plain map. After any calls the answers are those of the map, the pool
holds for every key the text set last with its lifetime, and fetches come to the same results and
run their queries at the same places. -/
theorem LawfulPool.serves_as_plainMap {State : Type} (pool : LawfulPool State) (state : State)
    (map : PlainMap) (mirrors : pool.Mirrors state map)
    (questions : List CacheStore.Question) :
    pool.asStore.replies questions state = PlainMap.respondent.replies questions map ∧
      (∀ key, pool.saved (pool.asStore.after questions state) key =
        ((PlainMap.lastSet key questions).or (map key)).map fun kept =>
          ⟨key, some kept.1, kept.2⟩) ∧
      ∀ {World : Type} (fetches : List (CachedFetch World)) (world : World),
        CachedFetch.reports pool.asStore fetches (pool.asStore.after questions state, world) =
          CachedFetch.reports PlainMap.respondent fetches
            (PlainMap.respondent.after questions map, world) := by
  have simulates := pool.asStore_simulates
  have final := simulates.after mirrors questions
  refine ⟨simulates.replies mirrors questions, fun key => ?_, fun fetches world => ?_⟩
  · rw [final key, PlainMap.after_eq_lastSet]
  · exact CachedFetch.reports_eq simulates fetches ⟨final, rfl⟩

/-- A pool that is nothing but its items. -/
def LawfulPool.ofItems : LawfulPool (String → Option CacheItem) where
  respondent := {
    answer
      | .getItem key, items => (.ok ((items key).getD (.miss key)), items)
      | .hasItem key, items => (.ok (items key).isSome, items)
      | .save item, items => (.ok (), Function.update items item.key (some item))
    note _ items := items }
  saved items := items
  getItem_answer _ _ := rfl
  getItem_saved _ _ := rfl
  hasItem_answer _ _ := rfl
  hasItem_saved _ _ := rfl
  save_answer _ _ := rfl
  save_saved _ _ := rfl
  note_saved _ _ := rfl

/-- A pool without items in which one key is set again, without a lifetime. -/
theorem LawfulPool.serves_as_plainMap_when_set_again :
    let questions : List CacheStore.Question :=
      [.set "a" "1" (some 5), .set "b" "2" none, .get "a", .set "a" "3" none]
    ofItems.Mirrors (fun _ => none) (fun _ => none) ∧
      ofItems.saved (ofItems.asStore.after questions fun _ => none) "a" =
        some ⟨"a", some "3", none⟩ := by
  intro questions
  have mirrors : ofItems.Mirrors (fun _ => none) (fun _ => none) := fun _ => rfl
  have kept := (serves_as_plainMap ofItems _ _ mirrors questions).2.1 "a"
  exact ⟨mirrors, kept.trans (by decide)⟩

end SqlWright
