import SqlWright.Database.Session
import SqlWright.Proofs.Cache.Key
import SqlWright.Proofs.Dialogue.Contract
import SqlWright.Proofs.Statement.Lifecycle
import SqlWright.Proofs.Template.Bindings
/-! Fetches of every flavour. All of them fetch the whole result in one way and then look at it;
a fetch that reads through the cache does so under the key of its own query. -/
namespace SqlWright

open Session

/-- The ways to look at a fetched result, each with the type of what it gives. -/
inductive Flavour : Type → Type 1 where
  | all : Flavour (List Record)
  | first : Flavour (Option Record)
  | column (index : Nat) : Flavour (Option Value)
  | firstAs {Row : Type} (reader : RowReader Row) : Flavour (Option Row)
  | allAs {Row : Type} (reader : RowReader Row) : Flavour (List Row)

namespace Flavour

variable {Ref Out : Type}

/-- The fetch of a handle with a store. -/
def fetch (config : Config) (statement : Ref) (ttl : CacheTtl) : Flavour Out → Run Ref Out
  | .all => fetchAll config true statement ttl
  | .first => Session.fetch config true statement ttl
  | .column index => fetchColumn config true statement index ttl
  | .firstAs reader => fetchAs config true statement reader ttl
  | .allAs reader => fetchAllAs config true statement reader ttl

def view : Flavour Out → ResultSet → Except Failure Out
  | .all, result => .ok result.records
  | .first, result => .ok (result.record? 0)
  | .column index, result => .ok (result.firstColumn? index)
  | .firstAs reader, result =>
    match result.record? 0 with
    | some record => (record.read reader).map some
    | none => .ok none
  | .allAs reader, result => result.readAll reader

private theorem andThen_andThen {First Second Third : Type} (run : Run Ref First)
    (next : First → Except Failure Second) (last : Second → Except Failure Third) :
    Session.andThen (Session.andThen run next) last =
      Session.andThen run fun result => (next result).bind last := by
  unfold Session.andThen
  induction run with
  | done outcome => cases outcome <;> rfl
  | note event rest ih => exact congrArg (Dialogue.note event) ih
  | ask question rest ih => exact congrArg (Dialogue.ask question) (funext ih)

/-- Every flavour fetches the whole result and looks at it. -/
theorem fetch_eq_andThen (flavour : Flavour Out) (config : Config) (statement : Ref)
    (ttl : CacheTtl) : flavour.fetch config statement ttl =
      Session.andThen (fetchResult config true statement ttl) flavour.view := by
  cases flavour with
  | all => rfl
  | first => rfl
  | column index => rfl
  | firstAs reader => exact andThen_andThen ..
  | allAs reader => rfl

end Flavour

/-- A call of one of the fetches: its select in any state of its life, and the lead-in that was
set on the handle when the call began. -/
structure Fetch where
  Out : Type
  flavour : Flavour Out
  select : Select
  reachable : Builder.Reachable select
  ttl : CacheTtl
  lead : Option String

namespace Fetch

def rendered (fetch : Fetch) : Rendered := Builder.build fetch.select

/-- The query without a lead-in. -/
def query (fetch : Fetch) : Query := fetch.rendered.query

/-- What the driver is to run: the query behind its lead-in. -/
def led (fetch : Fetch) : Query := { fetch.query with sql := fetch.lead.getD "" ++ fetch.query.sql }

/-- Whether the fetch takes part in caching: it has no lead-in and does not bypass the cache. -/
def ReadsThrough (fetch : Fetch) : Prop := fetch.lead = none ∧ fetch.ttl.isBypass = false

instance (fetch : Fetch) : Decidable fetch.ReadsThrough := inferInstanceAs (Decidable (_ ∧ _))

def key (config : Config) (fetch : Fetch) : String :=
  cacheKey config.cacheKeyPrefix fetch.rendered

def dialogue (config : Config) (fetch : Fetch) : Run Select fetch.Out :=
  fetch.flavour.fetch config fetch.select fetch.ttl

/-- A cached run of the query of a fetch, put to the handle's store and driver. -/
def through (config : Config) (fetch : Fetch)
    (cachedRun : Dialogue (ReadThrough.interface ResultSet) (Except Failure ResultSet)) :
    Run Select ResultSet :=
  cachedRun.refine (throughCache (executeBehind config fetch.select none))

theorem distinct (fetch : Fetch) : fetch.rendered.params.names.Nodup :=
  (Template.sound_build (Builder.template fetch.select)).distinct

theorem render_eq (fetch : Fetch) : (Builder.render fetch.select).1 = fetch.rendered :=
  fetch.reachable.render_eq_build

end Fetch

end SqlWright
