import PatternCheck.Json.Cursor

/-
Reading documents. A reader of values goes down at most as many levels
as it is given, `greatestDepth` at the top; lists and objects are read by
one loop each, `items` and `members`, that take the reader for a single
item and thread a state through it. The same loops, in another `Manner`,
serve to pass over members that nobody asked for.
-/

namespace PatternCheck.Json

/-- What is said about commas with nothing after them. -/
structure Manner where
  /-- Before the end of a list. -/
  listEnd : Cause
  /-- Before the end of an object. -/
  objectEnd : Cause
  /-- Within an object, before the end of the text. -/
  textEnd : Cause

namespace Manner

/-- For what is read. -/
def attentive : Manner := ⟨.commaTrailing, .commaTrailing, .valueUnfinished⟩

/-- For what is passed over. -/
def skimming : Manner := ⟨.valueExpected, .keyExpected, .objectUnfinished⟩

end Manner

/-- A reader that carries a state along. -/
abbrev Step (σ : Type) := σ → Cursor → Except Problem (σ × Cursor)

namespace Cursor

-- ================================================== lists and objects

/-- The rest of a list, with `step` for each item. At most `fuel` items
are read. -/
def items {σ : Type} (m : Manner) (step : Step σ) : Nat → Bool → Step σ
  | 0, _, _, c => c.here .listUnfinished
  | fuel + 1, first, s, c =>
    let c := c.blanks
    if c.rest.isEmpty then c.here .listUnfinished
    else if c.at? ']' then .ok (s, c.advance 1)
    else if first then
      match step s c with
      | .error e => .error e
      | .ok (s, c) => items m step fuel false s c
    else if c.at? ',' then
      let c := (c.advance 1).blanks
      if c.rest.isEmpty then c.here .valueUnfinished
      else if c.at? ']' then c.ahead m.listEnd
      else
        match step s c with
        | .error e => .error e
        | .ok (s, c) => items m step fuel false s c
    else c.ahead .listEndExpected

/-- The key of a member and the colon after it, with `step` for its value. -/
def member {σ : Type} (key : Cursor → Reading String)
    (step : String → Step σ) : Step σ :=
  fun s c => do
    let (k, c) ← key (c.advance 1)
    step k s c

/-- Past the colon between a key and its value. -/
def colon (c : Cursor) : Except Problem Cursor :=
  let c := c.blanks
  if c.rest.isEmpty then c.here .objectUnfinished
  else if c.at? ':' then .ok (c.advance 1)
  else c.ahead .colonExpected

/-- The rest of an object, with `step` for each member; the step begins at
the opening quotation mark of a key. -/
def members {σ : Type} (m : Manner) (step : Step σ) : Nat → Bool → Step σ
  | 0, _, _, c => c.here .objectUnfinished
  | fuel + 1, first, s, c =>
    let c := c.blanks
    if c.rest.isEmpty then c.here .objectUnfinished
    else if c.at? '\x7d' then .ok (s, c.advance 1)
    else if !first && !c.at? ',' then c.ahead .objectEndExpected
    else
      let c := if first then c else (c.advance 1).blanks
      if c.rest.isEmpty then c.here m.textEnd
      else if c.at? '"' then
        match step s c with
        | .error e => .error e
        | .ok (s, c) => members m step fuel false s c
      else if c.at? '\x7d' then c.ahead m.objectEnd
      else c.ahead .keyExpected

-- =============================================================== values

/-- A value that is neither a list nor an object; those are left to
`nested`. Blanks may stand before it. -/
def scalarOr (nested : Cursor → Reading Value) (c : Cursor) : Reading Value :=
  let c := c.blanks
  match c.rest with
  | [] => c.here .valueUnfinished
  | b :: _ =>
    if b = 'n'.toUInt8 then (c.literal "null").map (Value.null, ·)
    else if b = 't'.toUInt8 then (c.literal "true").map (Value.bool true, ·)
    else if b = 'f'.toUInt8 then (c.literal "false").map (Value.bool false, ·)
    else if b = '-'.toUInt8 || isDigit b then
      c.number.map fun (n, c) => (.number n, c)
    else if b = '"'.toUInt8 then (c.advance 1).string.map fun (s, c) =>
      (.string s, c)
    else if b = '['.toUInt8 || b = '\x7b'.toUInt8 then nested c
    else c.ahead .valueExpected

/-- A list or an object, with a reader for the values in it. -/
def nestedOf (value : Cursor → Reading Value) (c : Cursor) : Reading Value :=
  let inside := c.advance 1
  let fuel := c.rest.length
  if c.at? '[' then
    let step : Step (List Value) :=
      fun acc c => (value c).map fun (v, c) => (v :: acc, c)
    (items .attentive step fuel true [] inside).map fun (acc, c) =>
      (.array acc.reverse, c)
  else
    let step : Step (List (String × Value)) :=
      member string fun key acc c => do
        let c ← c.colon
        (value c).map fun (v, c) => ((key, v) :: acc, c)
    (members .attentive step fuel true [] inside).map fun (acc, c) =>
      (.object acc.reverse, c)

/-- A value with lists and objects in at most so many levels. -/
def value : Nat → Cursor → Reading Value
  | 0 => scalarOr fun c => c.ahead .tooDeep
  | depth + 1 => scalarOr (nestedOf (value depth))

/-- How many levels of lists and objects a document may have. -/
def greatestDepth : Nat := 127

/-- Only blanks are left. -/
def finish (c : Cursor) : Except Problem Unit :=
  if c.blanks.rest.isEmpty then .ok () else c.blanks.ahead .textTrailing

/-- What a text holds, from its first byte to its last, for a reader of
what it should hold. -/
def whole {α : Type} (read : Cursor → Reading α) (bytes : List UInt8) :
    Except Problem α := do
  let (a, c) ← read (start bytes)
  c.finish
  return a

end Cursor

/-- The document that some bytes are the text of. -/
def Value.ofBytes (bytes : List UInt8) : Except Problem Value :=
  Cursor.whole (Cursor.value Cursor.greatestDepth) bytes

end PatternCheck.Json
