import PatternCheck.Json.Writer
import PatternCheck.Log.Config
import PatternCheck.Text.Quoted

/-
The text of an event in each of the three formats. Colours are set with
escape sequences: the level has a colour of its own, and in the format
for people that takes several lines it colours the whole event.
-/

namespace PatternCheck.Log

/-- A place in the sources of the program. The name of a file takes one
line. -/
structure Place where
  file : String
  line : UInt32
  oneLine : '\n' ∉ file.toList

instance : Inhabited Place := ⟨⟨"", 0, by decide⟩⟩

/-- When and where events happen: the reading of the clock, the thread with
its number, and for each event the place in the sources that logs it. -/
structure Moment where
  time : String
  threadName : String
  threadId : Nat
  place : Event → Place
deriving Inhabited

-- =============================================================== colours

/-- An escape sequence that sets attributes of the text after it. -/
def attributes (codes : String) : String := "\x1b[" ++ codes ++ "m"

/-- The escape sequence that ends all attributes. -/
def plain : String := attributes "0"

/-- A text with attributes, if there are to be any. -/
def paint (colors : Bool) (codes text : String) : String :=
  if colors then attributes codes ++ text ++ plain else text

/-- The colour of a level. -/
def Level.color : Level → String
  | .error => "31"
  | .warn => "33"
  | .info => "32"
  | .debug => "34"
  | .trace => "35"

/-- The name of a level, always as wide as the longest one. -/
def Level.padded (l : Level) : String :=
  String.ofList (List.replicate (5 - l.name.length) ' ') ++ l.name

/-- The reading of the clock, if it is shown, and a blank. -/
def timeText (d : Display) (colors : Bool) (now : Moment) : String :=
  if d.time then paint colors "2" now.time ++ " " else ""

/-- The level and a blank. -/
def levelText (colors : Bool) (l : Level) : String :=
  paint colors l.color l.padded ++ " "

/-- The value of a field between other text. -/
def FieldValue.inLine : FieldValue → String
  | quoted s => Text.quoted s
  | v => v.render

-- =============================================================== formats

/-- The number of a thread with at least two digits. -/
def twoDigits (n : Nat) : String := if n < 10 then s!"0{n}" else toString n

/-- A part of what an event is about, set back from the message. -/
def aboutText (colors : Bool) (text : String) : String :=
  paint colors "2" text ++ paint colors "2" ":"

/-- What an event is about: its target and the place in the sources, as far
as they are shown, and a blank after them. -/
def originText (d : Display) (colors : Bool) (target : String) (p : Place) :
    String :=
  (if d.target then aboutText colors target else "")
    ++ (if d.target && d.source then " " else "")
    ++ (if d.source then
        aboutText colors p.file ++ aboutText colors (toString p.line.toNat)
      else "")
    ++ (if d.target || d.source then " " else "")

/-- An event on one line. -/
def compactText (d : Display) (colors : Bool) (now : Moment) (e : Event) :
    String :=
  let thread :=
    (if d.threadNames then now.threadName ++ " " else "")
      ++ (if d.threadIds then s!"ThreadId({twoDigits now.threadId}) " else "")
  let fields := e.fields.map fun (name, v) =>
    " " ++ paint colors "3" name ++ paint colors "2" "=" ++ v.inLine
  timeText d colors now ++ levelText colors e.level ++ thread
    ++ originText d colors e.target (now.place e) ++ e.message
    ++ String.join fields ++ "\n"

/-- The thread, at the end of a line. -/
def threadText (d : Display) (colors : Bool) (now : Moment) : String :=
  paint colors "2;3" "on" ++ " "
    ++ (if d.threadNames then
          now.threadName ++ (if d.threadIds then " " else "")
        else "")
    ++ (if d.threadIds then s!"ThreadId({now.threadId})" else "") ++ "\n"

/-- The line that names the place in the sources and the thread, as far as
they are shown. -/
def placeLine (d : Display) (colors : Bool) (now : Moment) (p : Place) :
    String :=
  let place :=
    "    " ++ paint colors "2;3" "at" ++ s!" {p.file}:{p.line.toNat}"
  let thread := threadText d colors now
  match d.source, d.threadNames || d.threadIds with
  | true, true => place ++ " " ++ thread
  | true, false => place ++ "\n"
  | false, true => "    " ++ thread
  | false, false => ""

/-- An event on several lines, with an empty one after it. -/
def prettyText (d : Display) (colors : Bool) (now : Moment) (e : Event) :
    String :=
  let color := if colors then attributes e.level.color else ""
  let strong := if colors then attributes ("1;" ++ e.level.color) else ""
  let back := if colors then plain ++ color else ""
  let target := if d.target then strong ++ e.target ++ back ++ ":" else ""
  let fields :=
    e.fields.map fun (name, v) =>
      ", " ++ strong ++ name ++ back ++ ": " ++ v.inLine
  "  " ++ timeText d colors now ++ levelText colors e.level ++ target ++ " "
    ++ color ++ e.message
    ++ String.join fields ++ (if colors then plain else "") ++ "\n"
    ++ placeLine d colors now (now.place e) ++ "\n"

/-- The value of a field as a document. -/
def FieldValue.toDocument : FieldValue → Json.Value
  | text s => .string s
  | quoted s => .string s
  | number n => .ofNat n
  | flag b => .bool b

/-- The members of a JSON object for an event. -/
def jsonMembers (d : Display) (now : Moment) (e : Event) :
    List (String × Json.Value) :=
  let fields : List (String × Json.Value) :=
    ("message", .string e.message) :: e.fields.map fun (name, v) =>
      (name, v.toDocument)
  let shown (flag : Bool) (key text : String) : List (String × Json.Value) :=
    if flag then [(key, .string text)] else []
  shown d.time "timestamp" now.time ++ [("level", .string e.level.name)]
    ++ (if d.flatten then fields else [("fields", .object fields)])
    ++ shown d.target "target" e.target
    ++ (if d.source then
        [("filename", .string (now.place e).file),
          ("line_number", .ofNat (now.place e).line.toNat)]
      else [])
    ++ shown d.threadNames "threadName" now.threadName
    ++ shown d.threadIds "threadId" s!"ThreadId({now.threadId})"

/-- An event as a JSON object on one line. -/
def jsonText (d : Display) (now : Moment) (e : Event) : String :=
  (Json.Value.object (jsonMembers d now e)).render ++ "\n"

/-- The text that an event is logged as, on a stream that is a terminal or
not. -/
def Config.render (c : Config) (terminal : Bool) (now : Moment) (e : Event) :
    String :=
  let colors := c.display.colorsFor terminal
  match c.format with
  | .pretty => prettyText c.display colors now e
  | .compact => compactText c.display colors now e
  | .json => jsonText c.display now e

end PatternCheck.Log
