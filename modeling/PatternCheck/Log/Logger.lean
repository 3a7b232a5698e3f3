import PatternCheck.Log.Filter
import PatternCheck.Log.Line

/-
The logger of a process. It is installed at most once: the first
configuration whose filter can be read stays in force, and whatever is
installed after it is refused. Events that happen while there is no
logger are lost.
-/

namespace PatternCheck.Log

/-- Why a logger is not installed. -/
inductive Refusal where
  | filter (text reason : String)
  | install (reason : String)
deriving Repr, DecidableEq, Inhabited

namespace Refusal

/-- The refusal in words. -/
def message : Refusal → String
  | filter text reason => s!"invalid filter '{text}': {reason}"
  | install reason => s!"failed to install logger: {reason}"

/-- There is a logger already. -/
def alreadyInstalled : Refusal :=
  install "a global default trace dispatcher has already been set"

end Refusal

/-- A logger: its configuration, and its filter as it was read. -/
structure Logger where
  config : Config
  filter : Filter
deriving Repr, Inhabited

namespace Logger

/-- The logger for a configuration. -/
def ofConfig (c : Config) : Except Refusal Logger :=
  match Filter.ofText c.level with
  | .ok f => .ok ⟨c, f⟩
  | .error e => .error (.filter c.level e.message)

/-- What is logged about a logger when it is installed, on a stream that is
a terminal or not. -/
def installed (l : Logger) (terminal : Bool) : Event :=
  { level := .debug
    target := "regviz_log::builder"
    message := "logger installed"
    fields :=
      [("level", .text l.config.level),
        ("format", .text l.config.format.title),
        ("colors", .flag (l.config.display.colorsFor terminal))] }

end Logger

/-- What a process has logged: its logger if it has one, and what has been
written to its streams, latest text first. `terminal` says which streams
are terminals. -/
structure Journal where
  terminal : Stream → Bool := fun _ => false
  logger : Option Logger := none
  written : List (Stream × String) := []

namespace Journal

/-- The text that has been written to a stream. -/
def output (j : Journal) (s : Stream) : String :=
  String.join ((j.written.reverse.filter (·.1 == s)).map (·.2))

/-- Logs an event. -/
def log (j : Journal) (now : Moment) (e : Event) : Journal :=
  match j.logger with
  | none => j
  | some l =>
    if l.filter.admits e then
      let w := l.config.writer
      { j with written :=
          (w, l.config.render (j.terminal w) now e) :: j.written }
    else j

/-- Logs events in order. -/
def logAll (j : Journal) (now : Moment) (es : List Event) : Journal :=
  es.foldl (fun j e => j.log now e) j

/-- Installs a logger. A filter that cannot be read is found before it is
noticed that there is a logger already. -/
def install (j : Journal) (now : Moment) (c : Config) :
    Except Refusal Journal :=
  match Logger.ofConfig c with
  | .error e => .error e
  | .ok l =>
    match j.logger with
    | some _ => .error .alreadyInstalled
    | none =>
      .ok (log { j with logger := some l } now
        (l.installed (j.terminal c.writer)))

end Journal

end PatternCheck.Log
