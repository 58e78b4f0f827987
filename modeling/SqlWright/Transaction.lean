import SqlWright.Dialogue
/-! Units of work between BEGIN and COMMIT. A unit that fails, or whose commit fails, is
rolled back; a transient failure is tried again after a pause, up to a bounded number of
attempts, and any other failure is returned as it is. -/
namespace SqlWright

/-- How often and after which failures a unit of work is tried again. -/
structure RetryPolicy where
  attempts : Nat
  /-- Milliseconds between two attempts. -/
  delay : Nat
  retryCodes : List String
  retryMessage : String
  deriving DecidableEq

def RetryPolicy.standard : RetryPolicy := ⟨10, 200, ["40001"], "try restarting transaction"⟩

inductive FailureClass where
  | transient
  | fatal
  deriving DecidableEq

/-- Whether a text occurs somewhere in another one. -/
def occursIn (needle : List Char) : List Char → Bool
  | [] => needle.isEmpty
  | c :: rest => needle.isPrefixOf (c :: rest) || occursIn needle rest

/-- A driver failure is transient if its code is listed or its message holds the retry
message, which the empty text never does. -/
def RetryPolicy.classify (policy : RetryPolicy) : Failure → FailureClass
  | .driver fault =>
    let codeMatches := fault.code.any fun code => policy.retryCodes.contains code
    let messageMatches := policy.retryMessage ≠ ""
      && occursIn policy.retryMessage.toList fault.message.toList
    if codeMatches || messageMatches then .transient else .fatal
  | _ => .fatal

namespace Transaction

inductive Question where
  | start
  | work
  | commit
  | rollback
  | pause (milliseconds : Nat)
  deriving DecidableEq

/-- Control commands are granted, refused, or fail; the work has a result or fails. -/
def Answer (Result : Type) : Question → Type
  | .start | .commit | .rollback => Except Failure Bool
  | .work => Except Failure Result
  | .pause _ => Unit

def interface (Result : Type) : Interface := ⟨Question, Answer Result⟩

/-- The failure of a control command that was refused. -/
def refused (command : String) : Failure :=
  .driver { stage := .transaction, message := command ++ " was refused" }

variable {Result : Type}

/-- Do the work and commit it. -/
def settle : Dialogue (interface Result) (Except Failure Result) :=
  .ask .work fun
    | .error failure => .done (.error failure)
    | .ok result => .ask .commit fun
      | .ok true => .done (.ok result)
      | .ok false => .done (.error (refused "COMMIT"))
      | .error failure => .done (.error failure)

/-- Make the attempt of this number, with so many attempts left including it. -/
def runFrom (policy : RetryPolicy) :
    (remaining attempt : Nat) → Dialogue (interface Result) (Except Failure Result)
  | 0, _ => .done (.error (.usage .noAttempts))
  | remaining + 1, attempt =>
    .ask .start fun
      | .error failure => .done (.error failure)
      | .ok false => .done (.error (refused "BEGIN"))
      | .ok true =>
        settle.bind fun
          | .ok result => .note (.committed attempt) (.done (.ok result))
          | .error failure => .ask .rollback fun
            | .error rollback => .done (.error (.rollbackFailed failure rollback))
            | .ok false => .done (.error (.rollbackRefused failure))
            | .ok true =>
              if policy.classify failure = .fatal ∨ remaining = 0 then .done (.error failure)
              else
                .note (.retrying attempt policy.attempts policy.delay failure)
                  (.ask (.pause policy.delay) fun _ => runFrom policy remaining (attempt + 1))

/-- Run a unit of work as a transaction. -/
def run (policy : RetryPolicy) : Dialogue (interface Result) (Except Failure Result) :=
  runFrom policy policy.attempts 1

end Transaction

end SqlWright
