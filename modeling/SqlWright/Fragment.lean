import SqlWright.Placeholder
import SqlWright.Failure
/-! Caller-written SQL with parameters of its own. A parameter can never take a generated
name, so merging a fragment into a statement overwrites no generated placeholder. -/
namespace SqlWright

structure Fragment where
  text : String
  params : Table := {}
  callerNamed : ∀ entry ∈ params.entries, Placeholder.isCallerName entry.1 = true := by
    intro entry member; cases member

namespace Fragment

/-- A fragment without parameters. -/
def ofText (text : String) : Fragment := { text }

/-- A function call with its arguments as written. -/
def call (name arguments : String) : Fragment := .ofText s!"{name}({arguments})"

private theorem isCallerName_colon {bareName : String} (nonempty : bareName ≠ "")
    (free : ¬ Placeholder.isReserved bareName = true) :
    Placeholder.isCallerName (":" ++ bareName) = true := by
  simpa [Placeholder.isCallerName, String.toList_append, nonempty] using free

/-- Bind a parameter, with or without its colon. The empty name and the names of
generated shape are refused. -/
def bind (fragment : Fragment) (name : String) (value : Value) : Except Failure Fragment :=
  let bareName := Placeholder.bare name
  if empty : bareName = "" then .error (.usage .emptyParameterName)
  else if reserved : Placeholder.isReserved bareName = true then
    .error (.usage (.reservedParameterName bareName))
  else .ok
    { text := fragment.text
      params := fragment.params.set (":" ++ bareName) value
      callerNamed := by
        intro entry member
        rcases Keyed.mem_putAt member with same | old
        · subst same
          exact isCallerName_colon empty reserved
        · exact fragment.callerNamed entry old }

/-- Bind parameters in order; the first that is refused is the error. -/
def bindAll (fragment : Fragment) (bindings : List (String × Value)) : Except Failure Fragment :=
  bindings.foldlM (fun fragment binding => fragment.bind binding.1 binding.2) fragment

end Fragment

end SqlWright
