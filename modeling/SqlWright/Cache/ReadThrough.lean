import SqlWright.Cache.Store
import SqlWright.Cache.Ttl
import SqlWright.Digest.Sha256
import SqlWright.Json.Text
import SqlWright.Template
/-! Reading through a cache: a kept text answers for the query; otherwise the query runs
and its result is kept. The steps are separate questions, so two callers that miss the
same key both run the query and the later one's text stays. -/
namespace SqlWright

/-- What a cache key is the digest of: the SQL text followed by its parameters sorted by
name, as a JSON object. -/
def cachePreimage (rendered : Rendered) : String := rendered.sql ++ Json.ofTable rendered.params

def cacheKey (keyPrefix : String) (rendered : Rendered) : String :=
  keyPrefix ++ hexText (Sha256.digest (bytesOfText (cachePreimage rendered)))

/-- How results are kept as text. Not every result has to have one. -/
structure CacheCodec (Result : Type) where
  encode : Result → Except Failure String
  decode : String → Except Failure Result

namespace ReadThrough

inductive Question where
  | store (question : CacheStore.Question)
  /-- Run the query itself. -/
  | run
  deriving DecidableEq

def Answer (Result : Type) : Question → Type
  | .store question => CacheStore.Answer question
  | .run => Except Failure Result

def interface (Result : Type) : Interface := ⟨Question, Answer Result⟩

variable {Result : Type}

/-- Run the query and keep its result. One that cannot be written as text is not returned. -/
def fill (codec : CacheCodec Result) (key : String) (ttl : CacheTtl) :
    Dialogue (interface Result) (Except Failure Result) :=
  .note (.cacheMiss key) <| .ask .run fun
    | .error failure => .done (.error failure)
    | .ok result =>
      match codec.encode result with
      | .error failure => .done (.error failure)
      | .ok text => .ask (.store (.set key text ttl.expiry)) fun
        | .error failure => .done (.error failure)
        | .ok () => .done (.ok result)

/-- Look a key up, and fill it if nothing is found under it. -/
def lookUp (codec : CacheCodec Result) (key : String) (ttl : CacheTtl) :
    Dialogue (interface Result) (Except Failure Result) :=
  .ask (.store (.has key)) fun
    | .error failure => .done (.error failure)
    | .ok false => fill codec key ttl
    | .ok true => .ask (.store (.get key)) fun
      | .error failure => .done (.error failure)
      | .ok none => fill codec key ttl
      | .ok (some text) => .note (.cacheHit key) (.done (codec.decode text))

/-- The result of a rendered query through a cache, if there is one and it is not bypassed. -/
def fetch (codec : CacheCodec Result) (hasStore : Bool) (keyPrefix : String)
    (rendered : Rendered) (ttl : CacheTtl) : Dialogue (interface Result) (Except Failure Result) :=
  if hasStore && !ttl.isBypass then lookUp codec (cacheKey keyPrefix rendered) ttl
  else .ask .run .done

end ReadThrough

end SqlWright
