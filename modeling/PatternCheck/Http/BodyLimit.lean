import PatternCheck.Http.Message

/-
How long a body may be. A request that says that its body is too long is
refused before anyone looks at it. Otherwise whoever reads the body may
take no more of it than is allowed, nor more than was said.
-/

namespace PatternCheck.Http

namespace Request

/-- Whether a request says that its body is longer than allowed. -/
def declaresTooMuch (r : Request) (limit : Nat) : Bool :=
  r.headers.declaredLength?.any (limit < ·)

/-- How much of the body may be read. -/
def readable (r : Request) (limit : Nat) : Nat :=
  (r.headers.declaredLength?.map (min limit)).getD limit

/-- The body, if it may be read as a whole. -/
def bodyWithin? (r : Request) (limit : Nat) : Option (List UInt8) :=
  if r.body.length ≤ r.readable limit then some r.body else none

end Request

namespace Response

/-- The answer to a request that says that its body is too long. -/
def declaredTooLong : Response := .ofText 413 plainText "length limit exceeded"

/-- The answer to a request whose body turns out to be too long. -/
def foundTooLong : Response :=
  .ofText 413 plainText
    "Failed to buffer the request body: length limit exceeded"

end Response

/-- Answers a request unless it says that its body is too long. -/
def guardLength {α : Type} (limit : Nat) (refused : Response → α)
    (answer : Request → α) (r : Request) : α :=
  if r.declaresTooMuch limit then refused .declaredTooLong else answer r

end PatternCheck.Http
