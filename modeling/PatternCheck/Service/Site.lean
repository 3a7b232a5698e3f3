import PatternCheck.Http.Assets
import PatternCheck.Http.CrossOrigin
import PatternCheck.Server.Config
import PatternCheck.Service.Endpoint

/-
The whole service as one function from requests to answers. Requests are
answered by an endpoint if the path is that of one, and by the directory
of assets otherwise, if there is to be one. In front of both stand the
leave for pages from elsewhere and the limit on the length of bodies.
-/

namespace PatternCheck.Service

open Log (Event)

/-- A configured service, with the files below its directory of assets if
that is there. -/
structure Site where
  config : Server.Config
  assets : Option Files := none
deriving Repr, Inhabited

namespace Site

/-- An answer, and what is logged on the way. -/
abbrev Answer := Http.Response × List Event

/-- An answer about which nothing is logged. -/
def quiet (r : Http.Response) : Answer := (r, [])

/-- The answer to a request that is of no endpoint. -/
def otherwise (s : Site) (r : Http.Request) : Http.Response :=
  if s.config.staticDir.isSome then Http.assetAnswer s.assets r
  else { status := 404 }

/-- The answer to a request that may have any length. -/
def dispatch (s : Site) (r : Http.Request) : Answer :=
  match Endpoint.ofPath? r.target.path with
  | some e =>
    if r.method ∈ e.methods then
      e.answer s.config.limits s.config.maxBodyBytes r
    else quiet { status := 405 }
  | none => quiet (s.otherwise r)

/-- The answer to a request whose length is looked at first. -/
def limited (s : Site) (r : Http.Request) : Answer :=
  Http.guardLength s.config.maxBodyBytes quiet s.dispatch r

/-- The answer to a request that may come from a page from elsewhere. -/
def shared (s : Site) (r : Http.Request) : Answer :=
  if !s.config.cors then s.limited r
  else if Http.CrossOrigin.isQuestion r then quiet Http.CrossOrigin.preflight
  else
    let (response, events) := s.limited r
    (response.adding Http.CrossOrigin.leave, events)

/-- What every answer of an endpoint says beside its content: its length,
and the methods of the endpoint, if the request came by another one. -/
def complete (e : Endpoint) (r : Http.Request) (response : Http.Response) :
    Http.Response :=
  (if r.method ∈ e.methods then
    response else response.adding [e.allow]).measured

/-- The answer to a request, and what is logged on the way. -/
def answer (s : Site) (r : Http.Request) : Answer :=
  let (response, events) := s.shared r
  let response :=
    match Endpoint.ofPath? r.target.path with
    | some e => complete e r response
    | none => response
  (response.toMethod r.method, events)

end Site

end PatternCheck.Service
