import QueryDesk.Result.Basic

/-! # Failures of the backend

Why a call of the backend brought no answer. Sending the same request again may help when the
backend was not reached or asked for patience.
-/

set_option autoImplicit false

namespace QueryDesk.Backend

/-- **Why a call brought no answer.** -/
inductive Failure where
  | unavailable
  | timeout
  | request
  | api (status : Nat) (message : String)
  | decode
  | result (e : ShapeError)
deriving DecidableEq

/-- The status of a server that asks for fewer requests. -/
def tooManyRequests : Nat := 429

namespace Failure

/-- Whether the same request may succeed when it is sent again. -/
def isRetryable : Failure → Bool
  | .unavailable => true
  | .api status _ => status == tooManyRequests
  | _ => false

/-- The message of a failure that has one of its own. -/
def message? : Failure → Option String
  | .unavailable => some "Query backend unavailable"
  | .timeout => some "Request timeout"
  | .api status message => some ("API error " ++ toString status ++ ": " ++ message)
  | .result e => some ("Invalid query result: " ++ e.message)
  | .request | .decode => none

end Failure

end QueryDesk.Backend
