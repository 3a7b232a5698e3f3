import PatternCheck.Json.Skim
import PatternCheck.Net.Address

/-
Reading the text of a document by the shape that it should have. What
comes out is the document without the members that nobody asked for, and
with records that are written as lists turned into objects. The first
problem in reading order counts, whether it is one of form or a mismatch.

A mismatch shows after the value that does not fit, if it is a number, a
word or a string; before it, if it is a list or an object; for a member
that is missing, after the object; for one that is there twice, after its
second key.
-/

namespace PatternCheck

open Json

/-- A number, as it is shown where it does not fit. -/
def Json.Number.found : Number → Found
  | natural n => .unsigned n
  | negative n => .signed (-n)
  | decimal isNegative s e => .float (Number.decimalText isNegative s e)

/-- A number that has to be a natural one below a bound. -/
def Shape.natural? (name : String) (bound : Nat) (n : Number) :
    Except Mismatch Value :=
  match n with
  | .natural k =>
    if k < bound then .ok (.number n) else .error (.value n.found name)
  | .negative _ => .error (.value n.found name)
  | .decimal .. => .error (.kind n.found name)

/-- A text that has to be an address. -/
def Shape.address? (text : String) : Except Mismatch Value :=
  match Net.Address.ofText? text with
  | some _ => .ok (.string text)
  | none => .error .badAddress

/-- A text that has to be one of some names. -/
def Shape.choice? (names : List String) (text : String) :
    Except Mismatch Value :=
  if text ∈ names then .ok (.string text) else .error (.unknownName text names)

/-- The members of a record that have to be there and are not. -/
def Fields.missing? (seen : List String) : Fields → Option Mismatch
  | .nil => none
  | .cons name shape rest =>
    if shape.isOptional || name ∈ seen then rest.missing? seen
    else some (.missing name)

/-- A list that is too short for a record. -/
def Shape.tooShort (name : String) (found wanted : Nat) : Mismatch :=
  let elements := if wanted = 1 then "1 element" else s!"{wanted} elements"
  .length found s!"struct {name} with {elements}"

namespace Json.Cursor

/-- A mismatch that shows before the next byte. -/
def misfit {α : Type} (c : Cursor) (m : Mismatch) : Except Problem α :=
  c.here (.mismatch m)

/-- A value that has to satisfy something, with the place after it. -/
def judged (c : Cursor) : Except Mismatch Value → Reading Value
  | .ok v => .ok (v, c)
  | .error m => c.misfit m

/-- A value of a kind that was not expected. -/
def wrongKind {α : Type} (expected : String) (c : Cursor) : Except Problem α :=
  if c.at? '[' then c.misfit (.kind .list expected)
  else if c.at? '\x7b' then c.misfit (.kind .table expected)
  else do
    let (v, c) ← c.scalarOr fun c => c.ahead .valueExpected
    match v with
    | .null => c.misfit (.kind .null expected)
    | .bool b => c.misfit (.kind (.boolean b) expected)
    | .number n => c.misfit (.kind n.found expected)
    | .string s => c.misfit (.kind (.text s) expected)
    | _ => c.here .valueExpected

/-- A string, if there is one, judged by its text. -/
def stringThat (expected : String) (judge : String → Except Mismatch Value)
    (c : Cursor) : Except Problem (Value × Cursor) :=
  let c := c.blanks
  if c.at? '"' then do
    let (s, c) ← (c.advance 1).string
    c.judged (judge s)
  else c.wrongKind expected

/-- One of some names, as a string or as the only key of an object with
nothing as its value. -/
def choiceOf (names : List String) (c : Cursor) :
    Except Problem (Value × Cursor) :=
  let c := c.blanks
  let name := stringThat "variant identifier" (Shape.choice? names)
  if c.rest.isEmpty then c.here .valueUnfinished
  else if c.at? '"' then name c
  else if c.at? '\x7b' then do
    let (v, c) ← name (c.advance 1)
    let c := (← c.colon).blanks
    let c ← if c.at? 'n' then c.literal "null" else c.wrongKind "unit"
    let c := c.blanks
    if c.at? '\x7d' then return (v, c.advance 1)
    else c.here (if c.rest.isEmpty then .objectUnfinished else .valueExpected)
  else c.ahead .valueExpected

/-- The members of a record that have been read, latest first. -/
abbrev Seen := List (String × Value)

/-- A member that is there a second time, at the place after its key. What
follows is looked at first. -/
def duplicate {α : Type} (c : Cursor) (key : String) : Except Problem α :=
  let c := c.blanks
  (if c.at? '\x7d' then c.advance 1 else c).misfit (.duplicate key)

/-- The end of a list that holds a record. -/
def listEnd (c : Cursor) : Except Problem Cursor :=
  let c := c.blanks
  if c.rest.isEmpty then c.here .listUnfinished
  else if c.at? ']' then .ok (c.advance 1)
  else if c.at? ',' then
    let c := (c.advance 1).blanks
    c.ahead (if c.at? ']' then .commaTrailing else .textTrailing)
  else c.ahead .textTrailing

/-- Whether a list goes on, and the place of the next item. -/
def nextItem (first : Bool) (c : Cursor) : Except Problem (Option Cursor) :=
  let c := c.blanks
  if c.rest.isEmpty then c.here .listUnfinished
  else if c.at? ']' then .ok none
  else if first then .ok (some c)
  else if c.at? ',' then
    let c := (c.advance 1).blanks
    if c.rest.isEmpty then c.here .valueUnfinished
    else if c.at? ']' then c.ahead .commaTrailing
    else .ok (some c)
  else c.ahead .listEndExpected

mutual

/-- A document of some shape. -/
def shaped : Shape → Cursor → Except Problem (Value × Cursor)
  | .boolean, c =>
    let c := c.blanks
    if c.at? 't' then (c.literal "true").map (Value.bool true, ·)
    else if c.at? 'f' then (c.literal "false").map (Value.bool false, ·)
    else c.wrongKind Shape.boolean.expected
  | .text, c => c.stringThat Shape.text.expected fun s => .ok (.string s)
  | .path, c => c.stringThat Shape.path.expected fun s => .ok (.string s)
  | .address, c => c.stringThat Shape.address.expected Shape.address?
  | .natural name bound, c =>
    let c := c.blanks
    if c.at? '-' || c.rest.head?.any isDigit then do
      let (n, c) ← c.number
      c.judged (Shape.natural? name bound n)
    else c.wrongKind name
  | .choice _ names, c => c.choiceOf names
  | .optional s, c =>
    if c.blanks.at? 'n' then (c.blanks.literal "null").map (Value.null, ·)
    else shaped s c
  | .record name filled fields, c =>
    let c := c.blanks
    if c.at? '[' then do
      let (seen, c) ← inOrder name filled fields 0 [] (c.advance 1)
      return (.object seen.reverse, c)
    else if c.at? '\x7b' then do
      let step : Step Seen := member string fun key seen c =>
        match memberNamed key seen fields c with
        | some reading => reading
        | none => do
          let c ← (← c.colon).skimValue
          return (seen, c)
      let (seen, c) ← members .attentive step c.rest.length true []
        (c.advance 1)
      match if filled then none else fields.missing? (seen.map (·.1)) with
      | some m => c.misfit m
      | none => return (.object seen.reverse, c)
    else c.wrongKind ("struct " ++ name)

/-- The member of a record with a key, if the record has one; the cursor is
after the key. -/
def memberNamed (key : String) (seen : Seen) :
    Fields → Cursor → Option (Except Problem (Seen × Cursor))
  | .nil, _ => none
  | .cons name shape rest, c =>
    if name = key then
      some <|
        if seen.any (·.1 == key) then c.duplicate key
        else do
          let c ← c.colon
          let (v, c) ← shaped shape c
          return ((key, v) :: seen, c)
    else memberNamed key seen rest c

/-- The members of a record in order, as the items of a list; `count` are
read already. -/
def inOrder (record : String) (filled : Bool) : Fields → Nat → Seen → Cursor →
    Except Problem (Seen × Cursor)
  | .nil, _, seen, c => do return (seen, ← c.listEnd)
  | .cons name shape rest, count, seen, c => do
    match ← c.nextItem (count = 0) with
    | some c =>
      let (v, c) ← shaped shape c
      inOrder record filled rest (count + 1) ((name, v) :: seen) c
    | none =>
      let after ← c.listEnd
      if filled then return (seen, after)
      else after.misfit (Shape.tooShort record count (count + rest.length + 1))

end

end Json.Cursor

/-- The document of some shape that some bytes are the text of. -/
def Shape.ofBytes (s : Shape) (bytes : List UInt8) : Except Problem Value :=
  Cursor.whole (Cursor.shaped s) bytes

end PatternCheck
