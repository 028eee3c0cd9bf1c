import QueryDesk.Backend.Failure
import QueryDesk.Surroundings.Dialogue
import QueryDesk.Text.DecimalDigit

/-! # Sending requests

A request is sent again while the backend is not reached or asks for fewer requests, up to a limit.
Before every further attempt there is a pause that grows with the square of their number; a server
that asks for fewer requests may ask for a pause of its own as well.
-/

set_option autoImplicit false

namespace QueryDesk.Backend

/-- **What an outcome means for a request**: it is settled, or it failed for now and may be sent
again, perhaps after a pause that the server asked for, in milliseconds. -/
inductive Verdict where
  | settled (answer : Except Failure Response)
  | again (patience : Option Nat) (failure : Failure)

/-- Whether a status is one of success. -/
def isSuccess (status : Nat) : Bool := 200 ≤ status && status < 300

/-- The text of a body; one that did not arrive is empty. -/
def bodyText : Body → String
  | .text s => s
  | _ => ""

/-- The pause that a server asks for, in milliseconds: a number of seconds. -/
def patience? (r : Response) : Option Nat :=
  (r.retryAfter.bind fun s => Text.readUnsigned? UInt64.size s.toList).map fun seconds => 1000 * seconds

/-- The verdict on a request without a response: it is sent again where that may help. -/
def withoutResponse (failure : Failure) : Verdict :=
  if failure.isRetryable then .again none failure else .settled (.error failure)

/-- **The verdict on an outcome.** -/
def verdict : Outcome → Verdict
  | .response r =>
    if isSuccess r.status then .settled (.ok r)
    else if r.status == tooManyRequests then .again (patience? r) (.api tooManyRequests "rate limited")
    else .settled (.error (.api r.status (bodyText r.body)))
  | .late => withoutResponse .timeout
  | .refused => withoutResponse .unavailable
  | .broken => withoutResponse .request

/-- The pause before an attempt, in milliseconds; the first attempt, number zero, has none. It is
counted without a bound, and fits in 64 bits up to attempt 271637582. -/
def backOff (attempt : Nat) : Nat := 250 * (attempt * attempt)

/-- A pause, if there is one. -/
def waitFor : Option Nat → Dialogue Unit
  | none => .done ()
  | some ms => .wait ms

/-- The pause before an attempt. -/
def waitBefore (attempt : Nat) : Dialogue Unit :=
  waitFor (if attempt = 0 then none else some (backOff attempt))

/-- **An attempt, and after a failure so many more.** -/
def attempts (r : Request) (attempt : Nat) : Nat → Dialogue (Except Failure Response)
  | 0 => do
    waitBefore attempt
    match verdict (← Dialogue.ask r) with
    | .settled answer => return answer
    | .again patience failure => do
      waitFor patience
      return .error failure
  | more + 1 => do
    waitBefore attempt
    match verdict (← Dialogue.ask r) with
    | .settled answer => return answer
    | .again patience _ => do
      waitFor patience
      attempts r (attempt + 1) more

/-- **A request sent**, at most `maxRetries` times more than once. -/
def send (r : Request) (maxRetries : Nat) : Dialogue (Except Failure Response) :=
  attempts r 0 maxRetries

end QueryDesk.Backend
