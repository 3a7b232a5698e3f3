/-
What can be logged: an event has a severity, the target it comes from, a
message and fields. A field is a text, a number or a flag; how it looks on
a line is for the line formats to say.
-/

namespace PatternCheck.Log

/-- How severe an event is. -/
inductive Level where
  | error
  | warn
  | info
  | debug
  | trace
deriving Repr, DecidableEq, Inhabited

namespace Level

/-- The place of a level among all of them; the most severe comes first. -/
def rank : Level → Nat
  | error => 1
  | warn => 2
  | info => 3
  | debug => 4
  | trace => 5

/-- The name of a level. -/
def name : Level → String
  | error => "ERROR"
  | warn => "WARN"
  | info => "INFO"
  | debug => "DEBUG"
  | trace => "TRACE"

/-- All levels. -/
def all : List Level := [error, warn, info, debug, trace]

end Level

/-- The value of a field. -/
inductive FieldValue where
  /-- A text that stands for itself. -/
  | text (s : String)
  /-- A text that is put in quotation marks where it stands between other
  text. -/
  | quoted (s : String)
  | number (n : Nat)
  | flag (b : Bool)
deriving Repr, DecidableEq, Inhabited

/-- The value of a field as a text. -/
def FieldValue.render : FieldValue → String
  | text s => s
  | quoted s => s
  | number n => toString n
  | flag true => "true"
  | flag false => "false"

/-- Something that can be logged. -/
structure Event where
  level : Level
  target : String
  message : String
  fields : List (String × FieldValue) := []
deriving Repr, DecidableEq, Inhabited

/-- The names of all fields, of which the message is the first. -/
def Event.fieldNames (e : Event) : List String :=
  "message" :: e.fields.map (·.1)

end PatternCheck.Log
