import PatternCheck.Log.Logger
import PatternCheck.Net.Address
import PatternCheck.Settings.Typed

/-
Why the server does not start, or stops before it should.
-/

namespace PatternCheck.Server

/-- Why the server does not run. -/
inductive Failure where
  /-- The configuration file cannot be read as TOML. -/
  | configSyntax
  /-- A setting does not fit. -/
  | config (p : Settings.Problem)
  /-- There is no configuration file. -/
  | configFile (path : String)
  /-- There is no directory of assets. -/
  | staticDir (path : String)
  | log (r : Log.Refusal)
  /-- The address cannot be had. -/
  | bind (address : Net.Address) (reason : String)
  | serve (reason : String)
deriving Repr, Inhabited

namespace Failure

/-- What is said about a file that is no TOML. Where it goes wrong is not
said. -/
def syntaxMessage : String := "TOML parse error"

/-- The failure in words. -/
def message : Failure → String
  | configSyntax => "configuration error: " ++ syntaxMessage
  | config p => "configuration error: " ++ p.message
  | configFile path => "configuration file not found: " ++ path
  | staticDir path => "static asset directory not found: " ++ path
  | log r => "logging error: " ++ r.message
  | bind address reason => s!"failed to bind {address.render}: {reason}"
  | serve reason => "server error: " ++ reason

/-- What is behind the failure, in words, if that is something apart. -/
def cause? : Failure → Option String
  | configSyntax => some syntaxMessage
  | config p => some p.message
  | configFile _ => none
  | staticDir _ => none
  | log r => some r.message
  | bind _ reason => some reason
  | serve reason => some reason

end Failure

end PatternCheck.Server
