import SqlWright.Style
import SqlWright.Transaction
/-! What a database handle is configured with. -/
namespace SqlWright

structure Config where
  style : Style
  transaction : RetryPolicy
  logging : Bool
  /-- The greatest number of bytes of a statement that is reported. -/
  logLimit : Option Nat
  cacheKeyPrefix : String
  deriving DecidableEq

/-- No reports, cut at 200 bytes once they are switched on. -/
def Config.standard : Config where
  style := .standard
  transaction := .standard
  logging := false
  logLimit := some 200
  cacheKeyPrefix := "db.select."

end SqlWright
