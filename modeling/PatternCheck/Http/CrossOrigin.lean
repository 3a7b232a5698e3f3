import PatternCheck.Http.Message

/-
Leave for pages from elsewhere to read the answers. Questions whether a
request would be allowed are answered at once, and always with yes; all
other answers only get further headers.
-/

namespace PatternCheck.Http.CrossOrigin

/-- What the answers depend on. -/
def vary : String × String :=
  ("vary",
    "origin, access-control-request-method, access-control-request-headers")

/-- Anyone may read an answer. -/
def anyOrigin : String × String := ("access-control-allow-origin", "*")

/-- The headers that every answer gets. -/
def leave : Headers :=
  [vary, anyOrigin, ("access-control-expose-headers", "*")]

/-- The answer to the question whether a request would be allowed. -/
def preflight : Response :=
  { headers :=
      [vary, ("access-control-allow-methods", "*"),
        ("access-control-allow-headers", "*"), anyOrigin] }

/-- Whether a request asks if another one would be allowed. -/
def isQuestion (r : Request) : Bool := r.method = "OPTIONS"

end PatternCheck.Http.CrossOrigin
