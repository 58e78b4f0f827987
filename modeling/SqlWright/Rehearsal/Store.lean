import SqlWright.Cache.Memory
import SqlWright.Rehearsal.Call
/-! Cache backends that keep a record of what they were asked and fail on demand. -/
namespace SqlWright

inductive StoreBackend where
  | memory (store : MemoryStore)
  /-- A pool over a plain map of items; lifetimes are kept and not looked at. -/
  | pool (items : List CacheItem)
  /-- Claims to have every key and finds none. -/
  | claimant
  /-- Keeps nothing. -/
  | nothing
  deriving DecidableEq

structure RehearsalStore where
  backend : StoreBackend
  /-- The names of the operations that fail. -/
  failing : List String
  calls : List Call := []

namespace RehearsalStore

def size : RehearsalStore → Option Nat
  | ⟨.memory store, _, _⟩ => some store.size
  | ⟨.pool items, _, _⟩ => some items.length
  | _ => none

private def record (store : RehearsalStore) (call : Call) : RehearsalStore :=
  { store with calls := store.calls ++ [call] }

private def failed (name : String) : Failure := .cache (name ++ " failed")

private def items (store : RehearsalStore) : List CacheItem :=
  match store.backend with
  | .pool items => items
  | _ => []

private def saveItem (item : CacheItem) : List CacheItem → List CacheItem
  | [] => [item]
  | first :: rest => if first.key = item.key then item :: rest else first :: saveItem item rest

/-- The pool behind a store: each operation is recorded, then done unless it shall fail. -/
def poolAnswer : (question : CachePool.Question) → RehearsalStore →
    CachePool.Answer question × RehearsalStore
  | .getItem key, store =>
    let found := (store.items.find? fun item => item.key = key).getD (.miss key)
    (if store.failing.contains "get_item" then .error (failed "get_item") else .ok found,
      store.record (.getItem key))
  | .hasItem key, store =>
    let found := store.items.any fun item => item.key = key
    (if store.failing.contains "has_item" then .error (failed "has_item") else .ok found,
      store.record (.hasItem key))
  | .save item, store =>
    if store.failing.contains "save" then (.error (failed "save"), store.record (.save item))
    else
      (.ok (), { store.record (.save item) with backend := .pool (saveItem item store.items) })

private def pool : Respondent CachePool.interface RehearsalStore :=
  ⟨poolAnswer, fun _ store => store⟩

/-- The backend's own answer. -/
def backendAnswer (question : CacheStore.Question) (store : RehearsalStore) :
    CacheStore.Answer question × RehearsalStore :=
  match store.backend with
  | .memory memory =>
    let (answer, memory) := memory.answer 0 question
    (answer, { store with backend := .memory memory })
  | .pool _ => (CachePool.asStore question).conduct pool store
  | .claimant =>
    match question with
    | .has _ => (.ok true, store)
    | .get _ => (.ok none, store)
    | .set .. => (.ok (), store)
  | .nothing =>
    match question with
    | .has _ => (.ok false, store)
    | .get _ => (.ok none, store)
    | .set .. => (.ok (), store)

/-- Record a question and answer it, or fail before the backend hears of it. -/
def answer : (question : CacheStore.Question) → RehearsalStore →
    CacheStore.Answer question × RehearsalStore
  | .has key, store =>
    let store := store.record (.has key)
    if store.failing.contains "has" then (.error (failed "has"), store)
    else backendAnswer (.has key) store
  | .get key, store =>
    let store := store.record (.get key)
    if store.failing.contains "get" then (.error (failed "get"), store)
    else backendAnswer (.get key) store
  | .set key text expiry, store =>
    let store := store.record (.set key text expiry)
    if store.failing.contains "set" then (.error (failed "set"), store)
    else backendAnswer (.set key text expiry) store

end RehearsalStore

end SqlWright
