import PatternCheck.Toml.Scalar

/-
Reading TOML documents. A document is a sequence of lines: headers choose
the table that the lines after them are about, and assignments give it
members. Nothing is said about where a document that cannot be read goes
wrong; so its reader is a scanner.
-/

namespace PatternCheck.Toml

open Text (Scan)

-- ================================================================ values

/-- Whether a character may stand in a key without quotation marks. -/
def isBare (c : Char) : Bool := c.isAlphanum || c = '-' || c = '_'

/-- One part of a key. -/
def simpleKey : Scan String := do
  match ← Scan.peek with
  | some '"' => basicString
  | some '\'' => literalString
  | _ => return String.ofList (← Scan.someSpan isBare)

/-- The longest key, in parts. -/
def longestKey : Nat := 80

/-- A key: its parts with points between them, the last one apart. -/
def key : Scan (List String × String) := do
  let part : Scan String := do
    blanks
    let k ← simpleKey
    blanks
    return k
  let parts ← Scan.separated part (Scan.char '.')
  match parts.getLast? with
  | some last =>
    if parts.length < longestKey then return (parts.dropLast, last)
    else failure
  | none => failure

/-- An assignment of a value to a key. -/
def assignment (value : Scan Value) : Scan (List String × String × Value) := do
  let (path, last) ← key
  Scan.char '='
  blanks
  return (path, last, ← value)

/-- A list in brackets, on any number of lines. -/
def array (value : Scan Value) : Scan Value := do
  Scan.char '['
  let item : Scan Value := do
    emptyLines
    let v ← value
    emptyLines
    return v
  let items ← Scan.separated item (Scan.char ',')
  if !items.isEmpty then
    let _ ← Scan.maybe (Scan.char ',')
  emptyLines
  Scan.char ']'
  return .array items

/-- A table in braces, on one line. -/
def inlineTable (value : Scan Value) : Scan Value := do
  Scan.char '\x7b'
  let member : Scan (List String × String × Value) := do
    let a ← assignment value
    blanks
    return a
  let members ← Scan.separated member (Scan.char ',')
  blanks
  Scan.char '\x7d'
  match members.foldlM (fun ms (path, last, v) =>
    Members.assign path last v .header ms) [] with
  | some ms => return .table (completeMembers ms)
  | none => failure

/-- A value with lists and tables in at most so many levels. -/
def value : Nat → Scan Value
  | 0 => scalar
  | depth + 1 => do
    match ← Scan.peek with
    | some '[' => array (value depth)
    | some '\x7b' => inlineTable (value depth)
    | _ => scalar

/-- How many levels of lists and tables a value may have. -/
def greatestDepth : Nat := 79

-- ============================================================= documents

/-- The table that lines are about, and all that has been read. -/
structure Draft where
  path : List String := []
  members : Members := []
deriving Inhabited

namespace Draft

/-- A draft with changed members, if the change could be made. -/
def changed (path : List String) : Option Members → Scan Draft
  | some ms => return ⟨path, ms⟩
  | none => failure

/-- The draft after an assignment. -/
def assign (d : Draft) (path : List String) (last : String) (v : Value) :
    Option Members :=
  Members.descend .parent (fun origin ms =>
    Members.assign path last v origin ms) d.path .header
    d.members

/-- A header, or an assignment. -/
def line (d : Draft) : Scan Draft := do
  if ← Scan.comes (Scan.exactly "[[") then
    Scan.exactly "[["
    let (path, last) ← key
    Scan.exactly "]]"
    trailing
    changed (path ++ [last]) (d.members.append? path last)
  else if ← Scan.comes (Scan.char '[') then
    Scan.char '['
    let (path, last) ← key
    Scan.char ']'
    trailing
    changed (path ++ [last]) (d.members.open? path last)
  else
    let (path, last, v) ← assignment (value greatestDepth)
    trailing
    changed d.path (d.assign path last v)

/-- At most `fuel` lines. -/
def lines : Nat → Draft → Scan Draft
  | 0, _ => failure
  | fuel + 1, d => do
    blanks
    if ← Scan.atEnd then return d
    else if ← Scan.comes (Scan.char '#') then
      comment
      lineEnd
      lines fuel d
    else if ← Scan.comes newline then
      newline
      lines fuel d
    else lines fuel (← d.line)

end Draft

/-- The table that a document is the text of. A mark at its beginning that
tells the order of bytes does not count. -/
def ofText? (text : String) : Option (List (String × Value)) :=
  let cs := match text.toList with
    | '\uFEFF' :: rest => rest
    | cs => cs
  (Scan.whole (Draft.lines (cs.length + 1) {}) cs).map fun d =>
    completeMembers d.members

end PatternCheck.Toml
