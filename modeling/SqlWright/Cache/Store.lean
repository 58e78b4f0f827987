import SqlWright.Dialogue
/-! The two shapes of cache backends: plain stores of texts under keys, and pools of items.
A pool serves as a store by fetching an item, filling it and saving it. -/
namespace SqlWright

namespace CacheStore

inductive Question where
  | has (key : String)
  | get (key : String)
  /-- Keep a text under a key, for so many milliseconds if a lifetime is given. -/
  | set (key text : String) (expiry : Option Nat)
  deriving DecidableEq

def Answer : Question → Type
  | .has _ => Except Failure Bool
  | .get _ => Except Failure (Option String)
  | .set .. => Except Failure Unit

def interface : Interface := ⟨Question, Answer⟩

end CacheStore

/-- A key with the text kept under it, if it was found, and its lifetime. -/
structure CacheItem where
  key : String
  text : Option String := none
  expiry : Option Nat := none
  deriving DecidableEq

namespace CacheItem

def miss (key : String) : CacheItem := { key }

def hit (key text : String) : CacheItem := { key, text := some text }

def isHit (item : CacheItem) : Bool := item.text.isSome

def set (item : CacheItem) (text : String) : CacheItem := { item with text := some text }

def expiresAfter (item : CacheItem) (expiry : Option Nat) : CacheItem :=
  { item with expiry := expiry }

end CacheItem

namespace CachePool

inductive Question where
  | getItem (key : String)
  | hasItem (key : String)
  | save (item : CacheItem)
  deriving DecidableEq

def Answer : Question → Type
  | .getItem _ => Except Failure CacheItem
  | .hasItem _ => Except Failure Bool
  | .save _ => Except Failure Unit

def interface : Interface := ⟨Question, Answer⟩

/-- A store question put to a pool. -/
def asStore : (question : CacheStore.Question) →
    Dialogue interface (CacheStore.Answer question)
  | .has key => .ask (.hasItem key) .done
  | .get key => .ask (.getItem key) fun
    | .error failure => .done (.error failure)
    | .ok item => .done (.ok item.text)
  | .set key text expiry => .ask (.getItem key) fun
    | .error failure => .done (.error failure)
    | .ok item => .ask (.save ((item.set text).expiresAfter expiry)) .done

end CachePool

end SqlWright
