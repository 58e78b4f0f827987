import SqlWright.Cache.ReadThrough
import SqlWright.Database.Config
import SqlWright.Json.Read
import SqlWright.Text.Cut
/-! A database handle: executing statements and raw SQL, fetching through the cache, and
transactions. A lead-in set on the handle is put in front of the next statement that runs
and of no other; a fetch with one neither reads nor fills the cache. -/
namespace SqlWright

namespace Session

/-- The questions of a handle. Statements are known by references, since rendering one
freezes it for its owner. -/
inductive Question (Ref : Type) where
  /-- The kind and the kept text of a statement. -/
  | rendering (statement : Ref)
  /-- The lead-in that is set, which is cleared by asking. -/
  | takeLead
  | execute (sql : String) (params : Table)
  | start
  | commit
  | rollback
  | lastInsertId
  | store (question : CacheStore.Question)
  | pause (milliseconds : Nat)
  deriving DecidableEq

def Answer {Ref : Type} : Question Ref → Type
  | .rendering _ => StatementKind × Rendered
  | .takeLead => Option String
  | .execute .. => Except Failure ResultSet
  | .start | .commit | .rollback => Except Failure Bool
  | .lastInsertId => Except Failure (Option String)
  | .store question => CacheStore.Answer question
  | .pause _ => Unit

def interface (Ref : Type) : Interface := ⟨Question Ref, Answer⟩

variable {Ref Result : Type}

/-- A run of a handle that yields a result or a failure. -/
abbrev Run (Ref Result : Type) := Dialogue (interface Ref) (Except Failure Result)

/-- Hand a rendered statement to the driver behind its lead-in. -/
def send (config : Config) (kind : Option StatementKind) (rendered : Rendered)
    (lead : Option String) : Run Ref ResultSet :=
  let sql := lead.getD "" ++ rendered.sql
  let sent : Run Ref ResultSet := .ask (.execute sql rendered.params) .done
  if config.logging then
    .note (.sent kind rendered.params.size (truncate sql config.logLimit)) sent
  else sent

/-- Render a statement and send it. -/
def executeBehind (config : Config) (statement : Ref) (lead : Option String) :
    Run Ref ResultSet :=
  .ask (.rendering statement) fun (kind, rendered) => send config (some kind) rendered lead

def execute (config : Config) (statement : Ref) : Run Ref ResultSet :=
  .ask .takeLead fun lead => executeBehind config statement lead

def executeRaw (config : Config) (fragment : Fragment) : Run Ref ResultSet :=
  .ask .takeLead fun lead => send config none ⟨fragment.text, fragment.params⟩ lead

def lastInsertId : Run Ref (Option String) := .ask .lastInsertId .done

/-- Put the questions of a transaction to the handle's driver. -/
def inTransaction (work : Run Ref Result) :
    (question : Transaction.Question) →
      Dialogue (interface Ref) (Transaction.Answer Result question)
  | .start => .ask .start .done
  | .work => work
  | .commit => .ask .commit .done
  | .rollback => .ask .rollback .done
  | .pause milliseconds => .ask (.pause milliseconds) .done

/-- Run a unit of work as a transaction. -/
def transaction (policy : RetryPolicy) (work : Run Ref Result) : Run Ref Result :=
  Dialogue.refine (I := Transaction.interface Result) (inTransaction work)
    (Transaction.run policy)

/-- Execute a statement, in a transaction of its own if it asks for one. The lead-in is
taken once and stands before every attempt. -/
def exec (config : Config) (statement : Ref) (usesTransaction : Bool) : Run Ref ResultSet :=
  .ask .takeLead fun lead =>
    let work := executeBehind config statement lead
    if usesTransaction then transaction config.transaction work else work

/-- Results are kept as JSON text, which every result has. -/
def resultCodec : CacheCodec ResultSet where
  encode result := .ok (Json.ofResult result)
  decode := Json.readResult

/-- Put the questions of a cached fetch to the handle's store and driver. -/
def throughCache (run : Run Ref ResultSet) :
    (question : ReadThrough.Question) →
      Dialogue (interface Ref) (ReadThrough.Answer ResultSet question)
  | .store question => .ask (.store question) .done
  | .run => run

/-- The whole result of a select; every way to fetch shares one entry per query. -/
def fetchResult (config : Config) (hasStore : Bool) (statement : Ref) (ttl : CacheTtl) :
    Run Ref ResultSet :=
  .ask .takeLead fun
    | some lead => executeBehind config statement (some lead)
    | none => .ask (.rendering statement) fun (_, rendered) =>
      Dialogue.refine (I := ReadThrough.interface ResultSet)
        (throughCache (executeBehind config statement none))
        (ReadThrough.fetch resultCodec hasStore config.cacheKeyPrefix rendered ttl)

/-- Go on with a result, or keep its failure. -/
def andThen {Other : Type} (run : Run Ref Result) (next : Result → Except Failure Other) :
    Run Ref Other :=
  run.bind fun outcome => .done (outcome.bind next)

def fetchAll (config : Config) (hasStore : Bool) (statement : Ref) (ttl : CacheTtl) :
    Run Ref (List Record) :=
  andThen (fetchResult config hasStore statement ttl) fun result => .ok result.records

/-- The first record. -/
def fetch (config : Config) (hasStore : Bool) (statement : Ref) (ttl : CacheTtl) :
    Run Ref (Option Record) :=
  andThen (fetchResult config hasStore statement ttl) fun result => .ok (result.record? 0)

/-- One column of the first record. -/
def fetchColumn (config : Config) (hasStore : Bool) (statement : Ref) (column : Nat)
    (ttl : CacheTtl) : Run Ref (Option Value) :=
  andThen (fetchResult config hasStore statement ttl) fun result =>
    .ok (result.firstColumn? column)

/-- The first record, read as a row. -/
def fetchAs (config : Config) (hasStore : Bool) (statement : Ref) (reader : RowReader Result)
    (ttl : CacheTtl) : Run Ref (Option Result) :=
  andThen (fetch config hasStore statement ttl) fun record =>
    match record with
    | some record => (record.read reader).map some
    | none => .ok none

/-- Every record, read as a row. -/
def fetchAllAs (config : Config) (hasStore : Bool) (statement : Ref)
    (reader : RowReader Result) (ttl : CacheTtl) : Run Ref (List Result) :=
  andThen (fetchResult config hasStore statement ttl) fun result => result.readAll reader

end Session

end SqlWright
