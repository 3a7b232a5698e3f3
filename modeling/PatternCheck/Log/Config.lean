import PatternCheck.Json.Value
import PatternCheck.Log.Event
import PatternCheck.Shape.Basic

/-
How the logger is set up: which events it logs, in which format and to
which stream, and what each line shows. There are two presets beside the
default one, and variables of the environment that override parts of any
of them. Some defaults depend on how the program is built.
-/

namespace PatternCheck

/-- How the program is built: for work on it, with checks that it makes
while it runs, or for service, without them. -/
inductive Build where
  | debug
  | release
deriving Repr, DecidableEq, Inhabited

/-- Whether the program checks itself while it runs. -/
def Build.checks : Build → Bool
  | debug => true
  | release => false

end PatternCheck

namespace PatternCheck.Log

open Json (Value)

/-- The variables of a process, each with its value. -/
abbrev Environment := List (String × String)

/-- The value of a variable. -/
def Environment.get? (env : Environment) (name : String) : Option String :=
  env.lookup name

-- ============================================================== formats

/-- How lines look. -/
inductive Format where
  /-- Several lines for each event, for people. -/
  | pretty
  /-- One line for each event, for people. -/
  | compact
  /-- One JSON object for each event, for programs. -/
  | json
deriving Repr, DecidableEq, Inhabited

namespace Format

/-- All formats. -/
def all : List Format := [pretty, compact, json]

/-- The name of a format in a configuration. -/
def name : Format → String
  | pretty => "pretty"
  | compact => "compact"
  | json => "json"

/-- The name of a format on a line. -/
def title : Format → String
  | pretty => "Pretty"
  | compact => "Compact"
  | json => "Json"

/-- The format with a name. -/
def ofName? (name : String) : Option Format := all.find? (·.name == name)

end Format

/-- Where lines go. -/
inductive Stream where
  | stderr
  | stdout
deriving Repr, DecidableEq, Inhabited

namespace Stream

/-- All streams. -/
def all : List Stream := [stderr, stdout]

/-- The name of a stream in a configuration. -/
def name : Stream → String
  | stderr => "stderr"
  | stdout => "stdout"

/-- The stream with a name. -/
def ofName? (name : String) : Option Stream := all.find? (·.name == name)

end Stream

/-- What lines show beside the event. -/
structure Display where
  time : Bool
  /-- Whether they show the place in the sources that logs the event. -/
  source : Bool
  target : Bool
  threadIds : Bool
  threadNames : Bool
  /-- Whether lines are coloured; if nothing is said, they are where the
  stream is a terminal. -/
  colors : Option Bool
  spanList : Bool
  /-- Whether the fields of an event are members of its JSON object, or of
  an object in it. -/
  flatten : Bool
deriving Repr, DecidableEq, Inhabited

/-- What lines show where nothing is said: places in the sources only in a
build for work on the program. -/
def Display.standard (build : Build) : Display :=
  { time := true
    source := build.checks
    target := true
    threadIds := false
    threadNames := false
    colors := none
    spanList := true
    flatten := true }

/-- Whether lines are coloured on a stream that is a terminal or not. -/
def Display.colorsFor (d : Display) (terminal : Bool) : Bool :=
  d.colors.getD terminal

/-- How the logger is set up. -/
structure Config where
  /-- The text of the filter. -/
  level : String
  format : Format
  writer : Stream
  display : Display
deriving Repr, DecidableEq, Inhabited

namespace Config

-- ============================================================== presets

section Presets

variable (build : Build)

/-- A logger of which nothing is said. -/
def standard : Config :=
  { level := "info", format := .compact, writer := .stderr,
    display := .standard build }

/-- For work on the program: lines for people, and all that the program
itself has to say. -/
def development : Config :=
  { standard build with
    level := "info,regviz_core=debug,regviz_api=debug,tower_http=debug"
    format := .pretty
    display := { Display.standard build with colors := none, source := true } }

/-- For service: objects on the standard output, for a collector. -/
def production : Config :=
  { standard build with
    level := "info,tower_http=warn,hyper=warn"
    format := .json
    writer := .stdout
    display :=
      { Display.standard build with
        colors := some false
        source := false
        target := false
        spanList := false
        flatten := true } }

/-- What a server uses of which nothing is said. -/
def auto : Config :=
  if build.checks then development build else production build

/-- The preset with a name. -/
def preset? : String → Option Config
  | "default" => some (standard build)
  | "development" => some (development build)
  | "production" => some (production build)
  | "auto" => some (auto build)
  | _ => none

end Presets

-- ============================================================ overrides

/-- A flag is set unless its text says that it is not. -/
def isSet (text : String) : Bool := text ≠ "0" && text ≠ "false"

/-- A format by its name in letters of either case; any other name is the
compact one. -/
def formatNamed (name : String) : Format :=
  match name.map Char.toLower with
  | "pretty" => .pretty
  | "json" => .json
  | _ => .compact

/-- The configuration with what the environment says about it. -/
def override (c : Config) (env : Environment) : Config :=
  let flag name := (env.get? name).map isSet
  { c with
    level := ((env.get? "REGVIZ_LOG").or (env.get? "RUST_LOG")).getD c.level
    format := ((env.get? "REGVIZ_LOG_FORMAT").map formatNamed).getD c.format
    display :=
      { c.display with
        time := (flag "REGVIZ_LOG_TIME").getD c.display.time
        source := (flag "REGVIZ_LOG_SOURCE").getD c.display.source
        colors := (flag "REGVIZ_LOG_COLORS").or c.display.colors } }

end Config

-- ============================================================ documents

/-- The shape of a display in a document. -/
def Display.shape : Shape :=
  .record "DisplayConfig" true <| .ofList
    [("time", .boolean), ("source", .boolean), ("target", .boolean),
      ("thread_ids", .boolean), ("thread_names", .boolean),
      ("colors", .optional .boolean), ("span_list", .boolean),
      ("flatten", .boolean)]

/-- The shape of a configuration in a document. -/
def Config.shape : Shape :=
  .record "Config" true <| .ofList
    [("level", .text),
      ("format", .choice "Format" (Format.all.map Format.name)),
      ("writer", .choice "WriterConfig" (Stream.all.map Stream.name)),
      ("display", Display.shape)]

/-- The display that a document of its shape describes; what it leaves out
has its default value. -/
def Display.ofDocument (build : Build) (v : Value) : Display :=
  let base := Display.standard build
  { time := v.boolOr "time" base.time
    source := v.boolOr "source" base.source
    target := v.boolOr "target" base.target
    threadIds := v.boolOr "thread_ids" base.threadIds
    threadNames := v.boolOr "thread_names" base.threadNames
    colors := (v.get? "colors").bind (·.bool?)
    spanList := v.boolOr "span_list" base.spanList
    flatten := v.boolOr "flatten" base.flatten }

/-- The configuration that a document of its shape describes; what it
leaves out has its default value. -/
def Config.ofDocument (build : Build) (v : Value) : Config :=
  let base := Config.standard build
  { level := v.textOr "level" base.level
    format :=
      (((v.get? "format").bind (·.text?)).bind Format.ofName?).getD base.format
    writer :=
      (((v.get? "writer").bind (·.text?)).bind Stream.ofName?).getD base.writer
    display :=
      ((v.get? "display").map (Display.ofDocument build)).getD base.display }

/-- A display as a document. -/
def Display.toDocument (d : Display) : Value :=
  .object
    [("time", .bool d.time), ("source", .bool d.source),
      ("target", .bool d.target), ("thread_ids", .bool d.threadIds),
      ("thread_names", .bool d.threadNames),
      ("colors", .ofOption .bool d.colors), ("span_list", .bool d.spanList),
      ("flatten", .bool d.flatten)]

/-- A configuration as a document. -/
def Config.toDocument (c : Config) : Value :=
  .object
    [("level", .string c.level), ("format", .string c.format.name),
      ("writer", .string c.writer.name), ("display", c.display.toDocument)]

end PatternCheck.Log
