import SqlWright.Cache.Store
/-! A store in memory that drops the entry unused for longest when it is full. Entries and
the order of their use are kept apart: reading moves a key to the end of the order, and an
expired entry is removed when it is touched. -/
namespace SqlWright

structure MemoryEntry where
  text : String
  /-- The first moment at which the entry is no longer live. -/
  deadline : Option Nat
  deriving DecidableEq

def MemoryEntry.isLive (entry : MemoryEntry) (now : Nat) : Bool :=
  entry.deadline.all fun deadline => now < deadline

structure MemoryStore where
  capacity : Nat
  entries : List (String × MemoryEntry) := []
  /-- The keys, that used longest ago first. -/
  order : List String := []
  deriving DecidableEq

namespace MemoryStore

def standardCapacity : Nat := 1024

def empty (capacity : Nat) : MemoryStore := { capacity }

def size (store : MemoryStore) : Nat := store.entries.length

def clear (store : MemoryStore) : MemoryStore := { store with entries := [], order := [] }

def entry? (store : MemoryStore) (key : String) : Option MemoryEntry :=
  (store.entries.find? fun entry => entry.1 = key).map (·.2)

/-- The entries with one replaced, or with a new one. -/
def insertEntry (key : String) (entry : MemoryEntry) :
    List (String × MemoryEntry) → List (String × MemoryEntry)
  | [] => [(key, entry)]
  | first :: rest =>
    if first.1 = key then (key, entry) :: rest else first :: insertEntry key entry rest

def removeEntry (key : String) (entries : List (String × MemoryEntry)) :
    List (String × MemoryEntry) :=
  entries.filter fun entry => entry.1 ≠ key

/-- Move a key to the end of the order, if it is there. -/
def touch (key : String) (order : List String) : List String :=
  if order.contains key then order.erase key ++ [key] else order

/-- The live text under a key. Reading it counts as use. -/
def read (store : MemoryStore) (now : Nat) (key : String) : Option String × MemoryStore :=
  match store.entry? key with
  | none => (none, store)
  | some entry =>
    if entry.isLive now then (some entry.text, { store with order := touch key store.order })
    else
      (none, { store with
        entries := removeEntry key store.entries
        order := store.order.erase key })

/-- Drop the keys at the front of the order until the entries fit. -/
def evictFrom (capacity : Nat) :
    List String → List (String × MemoryEntry) → List (String × MemoryEntry) × List String
  | [], entries => (entries, [])
  | oldest :: order, entries =>
    if capacity < entries.length then evictFrom capacity order (removeEntry oldest entries)
    else (entries, oldest :: order)

/-- Make the store fit its capacity; without capacity nothing stays. -/
def evict (store : MemoryStore) : MemoryStore :=
  if store.capacity = 0 then store.clear
  else
    let (entries, order) := evictFrom store.capacity store.order store.entries
    { store with entries := entries, order := order }

/-- Keep a text under a key, which counts as use, and drop what no longer fits. Moments are counted
without a bound, so every lifetime has a deadline. A clock whose moments end cannot name a deadline
beyond the last of them, and a call with such a lifetime fails there; it is not described here. -/
def write (store : MemoryStore) (now : Nat) (key text : String) (expiry : Option Nat) :
    MemoryStore :=
  let entry : MemoryEntry := ⟨text, expiry.map (now + ·)⟩
  let order := if (store.entry? key).isSome then touch key store.order else store.order ++ [key]
  evict { store with entries := insertEntry key entry store.entries, order := order }

/-- Answer a store question at a moment. -/
def answer (now : Nat) : (question : CacheStore.Question) → MemoryStore →
    CacheStore.Answer question × MemoryStore
  | .has key, store =>
    let (text, store) := store.read now key
    (.ok text.isSome, store)
  | .get key, store =>
    let (text, store) := store.read now key
    (.ok text, store)
  | .set key text expiry, store => (.ok (), store.write now key text expiry)

end MemoryStore

end SqlWright
