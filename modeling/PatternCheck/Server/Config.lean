import PatternCheck.Log.Config
import PatternCheck.Net.Address
import PatternCheck.Pattern.Document

/-
How the server is set up: where it listens, which assets it serves, what
it accepts, and the limits and the logger that go with it. As a document,
a configuration may be given in part: whatever is left out has its default
value, and so has whatever is left out of a section.
-/

namespace PatternCheck.Server

open Json (Value)
open Pattern (Limits)

/-- How the server is set up. -/
structure Config where
  /-- Where it listens. -/
  bind : Net.Address
  /-- The directory of assets. -/
  staticDir : Option String
  /-- The longest body of a request. -/
  maxBodyBytes : Nat
  /-- Whether pages from elsewhere may read the answers. -/
  cors : Bool
  limits : Limits
  log : Log.Config
deriving Repr, DecidableEq, Inhabited

namespace Config

/-- A server of which nothing is said. -/
def standard (build : Build) : Config :=
  { bind := ⟨.v4 127 0 0 1, 5000⟩
    staticDir := none
    maxBodyBytes := 65536
    cors := false
    limits := {}
    log := .auto build }

/-- The shape of a configuration in a document. -/
def shape : Shape :=
  .record "ApiConfig" true <| .ofList
    [("bind", .address), ("static_dir", .optional .path),
      ("max_body_bytes", .size), ("cors", .boolean), ("limits", Limits.shape),
      ("log", Log.Config.shape)]

/-- The configuration that a document of its shape describes. -/
def ofDocument (build : Build) (v : Value) : Config :=
  let base := standard build
  { bind :=
      (((v.get? "bind").bind (·.text?)).bind Net.Address.ofText?).getD
        base.bind
    staticDir := (v.get? "static_dir").bind (·.text?)
    maxBodyBytes := v.naturalOr "max_body_bytes" base.maxBodyBytes
    cors := v.boolOr "cors" base.cors
    limits := ((v.get? "limits").map Limits.ofDocument).getD base.limits
    log := ((v.get? "log").map (Log.Config.ofDocument build)).getD base.log }

/-- A configuration as a document. -/
def toDocument (c : Config) : Value :=
  .object
    [("bind", .string c.bind.render),
      ("static_dir", .ofOption .string c.staticDir),
      ("max_body_bytes", .ofNat c.maxBodyBytes), ("cors", .bool c.cors),
      ("limits", c.limits.toDocument), ("log", c.log.toDocument)]

end Config

end PatternCheck.Server
