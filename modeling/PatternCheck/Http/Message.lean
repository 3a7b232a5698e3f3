import PatternCheck.Decimal.Digits
import PatternCheck.Files
import PatternCheck.Text.Utf8

/-
Requests and responses. The target of a request is taken apart into what
stands before the path, the path and the query; the names of headers are
compared without regard to case, and of several headers with one name the
first one counts.
-/

namespace PatternCheck.Http

-- =============================================================== targets

/-- What a request is about. -/
structure Target where
  /-- The scheme and the host, if they are named. -/
  origin : String := ""
  path : String := "/"
  query : Option String := none
deriving Repr, DecidableEq, Inhabited

namespace Target

/-- Whether a character ends the name of a host. -/
def endsHost (c : Char) : Bool := c = '/' || c = '?' || c = '#'

/-- The scheme and the host at the beginning of a text, and the rest. A
host alone is one that has no scheme. -/
def splitOrigin (cs : List Char) : List Char × List Char :=
  if cs.head?.any endsHost || cs = ['*'] then ([], cs)
  else
    let scheme := cs.takeWhile fun c => c ≠ ':' && !endsHost c
    let afterScheme := cs.drop scheme.length
    let slashes := "://".toList
    if slashes.isPrefixOf afterScheme then
      let afterSlashes := afterScheme.drop slashes.length
      (scheme ++ slashes ++ afterSlashes.takeWhile (!endsHost ·),
        match afterSlashes.dropWhile (!endsHost ·) with
        | '/' :: rest => '/' :: rest
        | rest => '/' :: rest)
    else (cs.takeWhile (!endsHost ·), cs.dropWhile (!endsHost ·))

/-- The target that a text is. What follows a number sign does not
count. -/
def ofText (text : String) : Target :=
  let (origin, rest) := splitOrigin (text.toList.takeWhile (· ≠ '#'))
  let path := rest.takeWhile (· ≠ '?')
  { origin := String.ofList origin
    path := String.ofList path
    query := match rest.drop path.length with
      | _ :: query => some (String.ofList query)
      | [] => none }

/-- The text of a target. -/
def render (t : Target) : String :=
  t.origin ++ t.path ++ ((t.query.map ("?" ++ ·)).getD "")

end Target

-- =============================================================== headers

/-- Headers, in order. -/
abbrev Headers := List (String × String)

namespace Headers

/-- A name in lower case, as names are compared. -/
def fold (name : String) : String := name.map Char.toLower

/-- The value of the first header with a name. -/
def get? (hs : Headers) (name : String) : Option String :=
  (hs.find? fun (n, _) => fold n == name).map (·.2)

/-- Whether a text has visible characters and blanks only. -/
def isVisible (text : String) : Bool :=
  text.toList.all fun c => c = '\t' || (' ' ≤ c && c < '\x7f')

/-- The value of the first header with a name, if it is visible. -/
def visible? (hs : Headers) (name : String) : Option String :=
  (hs.get? name).filter isVisible

/-- The length that a message says its body has, if it can be read as a
number of 64 bits. -/
def declaredLength? (hs : Headers) : Option Nat := do
  let n ← Decimal.natural? (← hs.visible? "content-length").toList
  if n < UInt64.size then some n else none

end Headers

-- ============================================================== messages

/-- A request. -/
structure Request where
  method : String := "GET"
  target : Target := {}
  headers : Headers := []
  body : List UInt8 := []
deriving Repr, DecidableEq, Inhabited

/-- A response. -/
structure Response where
  status : Nat := 200
  headers : Headers := []
  body : List UInt8 := []
deriving Repr, DecidableEq, Inhabited

namespace Response

/-- A response with a text as its body. -/
def ofText (status : Nat) (contentType text : String) : Response :=
  { status, headers := [("content-type", contentType)],
    body := Text.Utf8.encode text.toList }

/-- A response with further headers. -/
def adding (r : Response) (hs : Headers) : Response :=
  { r with headers := r.headers ++ hs }

/-- A response that says how long its body is, if it did not yet. -/
def measured (r : Response) : Response :=
  if (r.headers.get? "content-length").isSome then r
  else r.adding [("content-length", toString r.body.length)]

/-- The response to a request by a method: without its body, if that is
not asked for. -/
def toMethod (r : Response) (method : String) : Response :=
  if method = "HEAD" then { r with body := [] } else r

end Response

/-- The type of texts without markup. -/
def plainText : String := "text/plain; charset=utf-8"

end PatternCheck.Http
