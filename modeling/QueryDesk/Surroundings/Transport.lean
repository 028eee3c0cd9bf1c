import QueryDesk.Json.Basic

/-! # Requests and their outcomes

What is sent to a server, and what comes of it. The body of a response may fail to arrive after its
head did.
-/

set_option autoImplicit false

namespace QueryDesk

/-- The method of a request. -/
inductive Method where
  | get
  | post
deriving DecidableEq

/-- The name of the method. -/
def Method.word : Method → String
  | .get => "GET"
  | .post => "POST"

/-- **A request**, and how long it may take. -/
structure Request where
  method : Method
  url : String
  body : Option Json
  timeoutMs : UInt64

/-- **The body of a response**, as far as it arrives. -/
inductive Body where
  | text (s : String)
  | cut
  | late
deriving DecidableEq

/-- **A response**: its status, how long to wait before another request where the server tells, and
its body. -/
structure Response where
  status : Nat
  retryAfter : Option String
  body : Body
deriving DecidableEq

/-- **What comes of a request**: a response, nothing in time, no connection, or another failure. -/
inductive Outcome where
  | response (r : Response)
  | late
  | refused
  | broken
deriving DecidableEq

end QueryDesk
