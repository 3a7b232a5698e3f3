import PatternCheck.CommandLine.Arguments
import PatternCheck.Server.Loading
import PatternCheck.Server.Shutdown

/-
The program as a whole: it reads its arguments and its configuration,
installs the logger, and runs the server until a signal tells it to stop.
Whatever fails on the way ends it, with a report of what was being done
and of what went wrong.
-/

namespace PatternCheck.CommandLine

open Log (Environment Journal)
open Server (Failure)

-- ============================================================== reports

/-- The lines of a report on a cause: the first line after a mark, the
others as far to the right. -/
def indented (mark : String) (text : String) : String :=
  let blank := String.ofList (List.replicate mark.length ' ')
  mark ++ String.join (text.toList.map fun c =>
    if c = '\n' then "\n" ++ blank else String.singleton c)

/-- What went wrong, and what is behind it. -/
def causes (f : Failure) : String :=
  match f.cause? with
  | some inner =>
    indented "    0: " f.message ++ "\n" ++ indented "    1: " inner
  | none => indented "    " f.message

/-- The report on a failure while something was being done. -/
def report (doing : String) (f : Failure) : String :=
  s!"Error: {doing}\n\nCaused by:\n{causes f}\n"

-- ================================================================ world

/-- What the program finds when it starts. -/
structure World where
  build : Build
  arguments : List String
  environment : Environment
  storage : Storage
  host : Server.Host
  now : Log.Moment

/-- How the program ends: its code, and what it has written. -/
structure Outcome where
  code : Nat
  stdout : String := ""
  stderr : String := ""
deriving Repr, DecidableEq, Inhabited

/-- What the program does before it waits for requests. -/
inductive Start where
  /-- It ends at once. -/
  | ended (o : Outcome)
  /-- It serves. -/
  | serving (r : Server.Running) (j : Journal)

-- ================================================================ start

/-- The configuration that the options leave: what is given on the command
line replaces what is loaded. -/
def Options.applied (o : Options) (c : Server.Config) : Server.Config :=
  { c with
    bind := o.bind.getD c.bind, staticDir := o.staticDir.or c.staticDir }

/-- How the program ends when it is misused, or asked about itself. -/
def Ending.outcome (env : Environment) : Ending → Outcome
  | .help => { code := 0, stdout := helpText env }
  | .version => { code := 0, stdout := versionText }
  | .misuse m => { code := 2, stderr := m.message }

/-- How the program ends when something fails, after what it has logged. -/
def failed (j : Journal) (doing : String) (f : Failure) : Outcome :=
  { code := 1, stdout := j.output .stdout,
    stderr := j.output .stderr ++ report doing f }

/-- Starts the server of a configuration. -/
def World.serve (w : World) (c : Server.Config) : Start :=
  match Journal.install {} w.now (c.log.override w.environment) with
  | .error r => .ended (failed {} "failed to initialize logging" (.log r))
  | .ok j =>
    match c.start w.storage w.host with
    | .error f => .ended (failed j "server exited with an error" f)
    | .ok r => .serving r (j.log w.now r.listening)

/-- Starts the program. -/
def World.start (w : World) : Start :=
  match Options.ofArguments w.environment w.arguments with
  | .error e => .ended (e.outcome w.environment)
  | .ok o =>
    match Server.Config.load w.build w.storage w.environment o.config with
    | .error f => .ended (failed {} "failed to load configuration" f)
    | .ok c => w.serve (o.applied c)

-- =============================================================== service

/-- Answers requests, one after the other. -/
def answerAll (site : Service.Site) (now : Log.Moment) (j : Journal) :
    List Http.Request → Journal × List Http.Response
  | [] => (j, [])
  | r :: rest =>
    let (response, events) := site.answer r
    let (j, responses) := answerAll site now (j.logAll now events) rest
    (j, response :: responses)

/-- How the program ends after a signal. -/
def stop (now : Log.Moment) (j : Journal) : Outcome :=
  let j := j.logAll now [Server.Waiting.received, Server.Running.stopped]
  { code := 0, stdout := j.output .stdout, stderr := j.output .stderr }

/-- The program from start to end: some requests come, and then a
signal. -/
def World.run (w : World) (requests : List Http.Request) :
    Outcome × List Http.Response :=
  match w.start with
  | .ended o => (o, [])
  | .serving r j =>
    let (j, responses) := answerAll r.site w.now j requests
    (stop w.now j, responses)

end PatternCheck.CommandLine
