import SqlWright.Cache.Store
import SqlWright.Placeholder
/-! What was asked of the collaborators of a rehearsal, in order. -/
namespace SqlWright

inductive Call where
  | execute (sql : String) (params : Table)
  | start
  | work
  | commit
  | rollback
  | lastInsertId
  | query
  | has (key : String)
  | get (key : String)
  | set (key text : String) (expiry : Option Nat)
  | getItem (key : String)
  | hasItem (key : String)
  | save (item : CacheItem)
  deriving DecidableEq

/-- The first prepared reply, or the fallback once there are none. -/
def nextReply {Reply : Type} (replies : List Reply) (fallback : Reply) : Reply × List Reply :=
  match replies with
  | [] => (fallback, [])
  | reply :: rest => (reply, rest)

end SqlWright
