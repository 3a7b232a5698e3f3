import PatternCheck.Server.Failure
import PatternCheck.Service.Site

/-
A server from start to end. The directory of assets has to be there, and
the address has to be free; then the server listens until a signal tells
it to stop.
-/

namespace PatternCheck.Server

open Log (Event)

/-- What a host says to a server that wants to listen at an address: where
it listens then, or why it may not. -/
abbrev Host := Net.Address → Except String Net.Address

/-- A server that listens. -/
structure Running where
  address : Net.Address
  site : Service.Site
deriving Inhabited

/-- What this module logs. -/
def event (message : String) (fields : List (String × Log.FieldValue) := []) :
    Event :=
  { level := .info, target := "regviz_api::server", message, fields }

/-- How the directory of assets is logged. -/
def shownDirectory : Option String → String
  | some path => "Some(" ++ Text.quoted path ++ ")"
  | none => "None"

namespace Running

/-- What is logged when a server listens. -/
def listening (r : Running) : Event :=
  let c := r.site.config
  event "regviz server listening"
    [("addr", .text r.address.render),
      ("static_dir", .text (shownDirectory c.staticDir)),
      ("cors", .flag c.cors), ("size_limit", .number c.limits.size),
      ("nest_limit", .number c.limits.nesting)]

/-- What is logged when a server has stopped. -/
def stopped : Event := event "regviz server stopped"

end Running

/-- The site of a configuration. -/
def Config.site (c : Config) (st : Storage) : Except Failure Service.Site :=
  match c.staticDir with
  | none => .ok { config := c }
  | some path =>
    match st.directory? path with
    | some files => .ok { config := c, assets := some files }
    | none => .error (.staticDir path)

/-- Starts a server. -/
def Config.start (c : Config) (st : Storage) (host : Host) :
    Except Failure Running := do
  let site ← c.site st
  match host c.bind with
  | .ok address => return { address, site }
  | .error reason => .error (.bind c.bind reason)

/-- What is logged by a server that is told to stop at once. -/
def Config.serve (c : Config) (st : Storage) (host : Host) :
    Except Failure (List Event) := do
  let r ← c.start st host
  return [r.listening, Running.stopped]

end PatternCheck.Server
