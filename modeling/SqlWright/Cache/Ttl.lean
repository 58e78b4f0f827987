/-! How long a result is kept. -/
namespace SqlWright

inductive CacheTtl where
  /-- Neither read nor write the cache. -/
  | bypass
  | persist
  | expire (milliseconds : Nat)
  deriving DecidableEq

namespace CacheTtl

def isBypass : CacheTtl → Bool
  | .bypass => true
  | _ => false

/-- The lifetime in milliseconds, if there is one. -/
def expiry : CacheTtl → Option Nat
  | .expire milliseconds => some milliseconds
  | _ => none

/-- Whole seconds; none or less than none means no caching. -/
def ofSeconds (seconds : Int) : CacheTtl :=
  if seconds ≤ 0 then .bypass else .expire (seconds.toNat * 1000)

/-- An optional lifetime; without one the result stays. -/
def ofExpiry : Option Nat → CacheTtl
  | none => .persist
  | some milliseconds => .expire milliseconds

end CacheTtl

end SqlWright
