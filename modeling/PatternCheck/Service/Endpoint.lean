import PatternCheck.Http.BodyLimit
import PatternCheck.Json.Writer
import PatternCheck.Service.Request

/-
The endpoints of the service. Three of them check the pattern in the body
of a request and give the same answers; one says that the service is
there. Each endpoint has the methods by which it may be used, and a
request by another method is told which these are.
-/

namespace PatternCheck.Service

open Json (Value)
open Log (Event)
open Pattern (Limits)

/-- An endpoint. -/
inductive Endpoint where
  | validate
  /-- For those that draw the parts of a pattern. -/
  | parseTree
  /-- For those that draw the paths through a pattern. -/
  | railroad
  | health
deriving Repr, DecidableEq, Inhabited

namespace Endpoint

/-- All endpoints. -/
def all : List Endpoint := [validate, parseTree, railroad, health]

/-- The path of an endpoint. -/
def path : Endpoint → String
  | validate => "/api/validate"
  | parseTree => "/api/parse-tree"
  | railroad => "/api/railroad"
  | health => "/health"

/-- The endpoint with a path. -/
def ofPath? (path : String) : Option Endpoint := all.find? (·.path == path)

/-- The methods by which an endpoint may be used. -/
def methods : Endpoint → List String
  | health => ["GET", "HEAD"]
  | _ => ["POST"]

/-- The methods of an endpoint, in a header. -/
def allow (e : Endpoint) : String × String :=
  ("allow", String.intercalate "," e.methods)

end Endpoint

/-- The version of the service. -/
def version : String := "0.1.0"

/-- The response with a document. -/
def documentResponse (v : Value) : Http.Response :=
  .ofText 200 "application/json" v.render

/-- What says that the service is there. -/
def healthDocument : Value :=
  .object [("status", .string "ok"), ("version", .string version)]

/-- What is logged about a pattern that was checked. -/
def checked (route : String) (r : Request) (v : Verdict) : Event :=
  { level := .debug
    target := "regviz_api::handlers"
    message := "pattern checked"
    fields :=
      [("route", .quoted route),
        ("pattern_len", .number r.pattern.utf8ByteSize),
        ("valid", .flag v.valid)] }

/-- The answer to bytes that are a request to check a pattern, and what is
logged on the way. -/
def checkAnswer (limits : Limits) (route : String) (bytes : List UInt8) :
    Http.Response × List Event :=
  let (r, reading) := Request.ofBytes bytes
  let (v, checking) := Verdict.ofPattern limits r.pattern
  (documentResponse v.toDocument, reading ++ checking ++ [checked route r v])

/-- The answer of an endpoint to a request by one of its methods. -/
def Endpoint.answer (e : Endpoint) (limits : Limits) (maxBodyBytes : Nat)
    (r : Http.Request) : Http.Response × List Event :=
  match e with
  | .health => (documentResponse healthDocument, [])
  | _ =>
    match r.bodyWithin? maxBodyBytes with
    | some bytes => checkAnswer limits e.path bytes
    | none => (.foundTooLong, [])

end PatternCheck.Service
