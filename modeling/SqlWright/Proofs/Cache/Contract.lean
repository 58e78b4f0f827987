import SqlWright.Database.Session
import SqlWright.Proofs.Dialogue.Courses
import Mathlib.Data.List.Nodup
/-! The calls of one fetch through a cache, whatever the store and the query answer: which calls
are made and in what order, and what comes of them. A pool of items that serves as the store gets
the calls that its store would get, each put in its own terms. -/
namespace SqlWright

variable {Result State View : Type}

namespace ReadThrough

/-- A call of a fetch, with its answer. -/
inductive Call (Result : Type) where
  | has (key : String) (answer : Except Failure Bool)
  | get (key : String) (answer : Except Failure (Option String))
  | run (outcome : Except Failure Result)
  | set (key text : String) (expiry : Option Nat) (answer : Except Failure Unit)

namespace Call

def question : Call Result → Question
  | .has key _ => .store (.has key)
  | .get key _ => .store (.get key)
  | .run _ => .run
  | .set key text expiry _ => .store (.set key text expiry)

def ofReply : Reply (interface Result) → Call Result
  | ⟨.store (.has key), answer⟩ => .has key answer
  | ⟨.store (.get key), answer⟩ => .get key answer
  | ⟨.run, outcome⟩ => .run outcome
  | ⟨.store (.set key text expiry), answer⟩ => .set key text expiry answer

def failure? : Call Result → Option Failure
  | .has _ (.error failure) | .get _ (.error failure) | .run (.error failure)
  | .set _ _ _ (.error failure) => some failure
  | _ => none

end Call

/-- The calls of a fetch, in order. -/
def callsOf (fetched : Dialogue (interface Result) (Except Failure Result))
    (respondent : Respondent (interface Result) State) (state : State) : List (Call Result) :=
  (fetched.replies respondent state).map .ofReply

section Courses

variable {codec : CacheCodec Result} {key : String} {ttl : CacheTtl}

/-- How a fetch goes on that found nothing. -/
inductive Filling (codec : CacheCodec Result) (key : String) (ttl : CacheTtl) :
    List (Call Result) → Except Failure Result → Prop where
  | failed (failure : Failure) : Filling codec key ttl [.run (.error failure)] (.error failure)
  | unwritten {result : Result} {failure : Failure}
      (unencoded : codec.encode result = .error failure) :
      Filling codec key ttl [.run (.ok result)] (.error failure)
  | unkept {result : Result} {text : String} (encoded : codec.encode result = .ok text)
      (failure : Failure) : Filling codec key ttl
      [.run (.ok result), .set key text ttl.expiry (.error failure)] (.error failure)
  | kept {result : Result} {text : String} (encoded : codec.encode result = .ok text) :
      Filling codec key ttl
      [.run (.ok result), .set key text ttl.expiry (.ok ())] (.ok result)

/-- How a fetch goes that asks its store. -/
inductive Course (codec : CacheCodec Result) (key : String) (ttl : CacheTtl) :
    List (Call Result) → Except Failure Result → Prop where
  | unanswered (failure : Failure) : Course codec key ttl [.has key (.error failure)]
      (.error failure)
  | absent {calls : List (Call Result)} {outcome : Except Failure Result}
      (filling : Filling codec key ttl calls outcome) :
      Course codec key ttl (.has key (.ok false) :: calls) outcome
  | unread (failure : Failure) : Course codec key ttl
      [.has key (.ok true), .get key (.error failure)] (.error failure)
  | vanished {calls : List (Call Result)} {outcome : Except Failure Result}
      (filling : Filling codec key ttl calls outcome) :
      Course codec key ttl (.has key (.ok true) :: .get key (.ok none) :: calls) outcome
  | hit (text : String) : Course codec key ttl
      [.has key (.ok true), .get key (.ok (some text))] (codec.decode text)

variable {replies : List (Reply (interface Result))} {outcome : Except Failure Result}
  {calls : List (Call Result)}

theorem Filling.ends (filling : Filling codec key ttl calls outcome) :
    (∃ text, .set key text ttl.expiry (.ok ()) ∈ calls) ∨
      (∃ result failure, .run (.ok result) ∈ calls ∧ codec.encode result = .error failure) ∨
      ∃ call ∈ calls, call.failure? ≠ none := by
  cases filling with
  | failed => simp [Call.failure?]
  | unwritten unencoded => simp [unencoded]
  | unkept => simp [Call.failure?]
  | @kept _ text => exact .inl ⟨text, by simp⟩

end Courses

section Fetches

variable {codec : CacheCodec Result} {hasStore : Bool} {keyPrefix : String} {rendered : Rendered}
  {ttl : CacheTtl} {calls : List (Call Result)} {outcome : Except Failure Result}

end Fetches

section Pools

/-- The questions of a fetch whose store is a pool of items. -/
inductive PoolQuestion where
  | pool (question : CachePool.Question)
  | run

def PoolAnswer (Result : Type) : PoolQuestion → Type
  | .pool question => CachePool.Answer question
  | .run => Except Failure Result

def poolInterface (Result : Type) : Interface := ⟨PoolQuestion, PoolAnswer Result⟩

/-- A call to a pool or to the query, with its answer. -/
inductive PoolCall (Result : Type) where
  | hasItem (key : String) (answer : Except Failure Bool)
  | getItem (key : String) (answer : Except Failure CacheItem)
  | run (outcome : Except Failure Result)
  | save (item : CacheItem) (answer : Except Failure Unit)

namespace PoolCall

def question : PoolCall Result → PoolQuestion
  | .hasItem key _ => .pool (.hasItem key)
  | .getItem key _ => .pool (.getItem key)
  | .run _ => .run
  | .save item _ => .pool (.save item)

def ofReply : Reply (poolInterface Result) → PoolCall Result
  | ⟨.pool (.hasItem key), answer⟩ => .hasItem key answer
  | ⟨.pool (.getItem key), answer⟩ => .getItem key answer
  | ⟨.run, outcome⟩ => .run outcome
  | ⟨.pool (.save item), answer⟩ => .save item answer

end PoolCall

variable {call : Call Result} {piece : List (PoolCall Result)}

end Pools

/-- A result without a text is not set. -/
example :
    let codec : CacheCodec Nat := {
      encode _ := .error (.serialization "no text")
      decode _ := .ok 0 }
    let empty : Respondent (interface Nat) Unit := {
      answer
        | .store (.has _), _ => (.ok false, ())
        | .store (.get _), _ => (.ok none, ())
        | .store (.set ..), _ => (.ok (), ())
        | .run, _ => (.ok 1, ())
      note _ _ := () }
    let fetched := fetch codec true "p." ⟨"SELECT 1", {}⟩ .persist
    callsOf fetched empty () =
        [.has (cacheKey "p." ⟨"SELECT 1", {}⟩) (.ok false), .run (.ok 1)] ∧
      (fetched.conduct empty ()).1 = .error (.serialization "no text") :=
  ⟨rfl, rfl⟩

end ReadThrough

end SqlWright
