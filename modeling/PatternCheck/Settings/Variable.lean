import PatternCheck.Log.Config
import PatternCheck.Settings.Setting
import PatternCheck.Text.Blank

/-
Settings from variables of the environment. The name of a variable after
the prefix is a path of keys, with two underscores or a point between
them; its value is read as a truth value, a number, a table, a list or a
text, whatever it looks like. What cannot be read to its end is a text.
-/

namespace PatternCheck.Settings

open Text (Scan trim)
open Log (Environment)

-- =============================================================== values

/-- Whether a character is passed over between the parts of a value. -/
def isSpace (c : Char) : Bool :=
  c = ' ' || c = '\t' || c = '\n' || c = '\r' || c = '\x0c'

/-- Past blanks. -/
def spaces : Scan Unit := do
  let _ ← Scan.span isSpace

/-- A thing with blanks around it. -/
def spaced {α : Type} (s : Scan α) : Scan α := do
  spaces
  let a ← s
  spaces
  return a

/-- The inside of a text in quotation marks: up to the first mark without
a backslash before it. -/
def quotedInside :
    Bool → List Char → List Char → Option (List Char × List Char)
  | _, _, [] => none
  | true, acc, c :: rest => quotedInside false (c :: acc) rest
  | false, acc, c :: rest =>
    if c = '"' then some (acc.reverse, rest)
    else quotedInside (c = '\\') (c :: acc) rest

/-- A text without its escapes. -/
def unescaped : Scan (List Char) :=
  Scan.many (Toml.escaped <|> Scan.one fun c => Toml.isPlain c && c ≠ '\\')

/-- A text in quotation marks, with escapes. -/
def quotedText : Scan String := do
  Scan.char '"'
  let inside ← quotedInside false []
  match Scan.whole unescaped inside with
  | some cs => return String.ofList cs
  | none => failure

/-- The key of a member. -/
def memberKey : Scan String := do
  match ← Scan.peek with
  | some '"' => quotedText
  | _ =>
    return String.ofList (← Scan.someSpan fun c =>
      c.isAlphanum || c = '_' || c = '-')

/-- The rest of things with commas between them, up to a closing mark,
which may stand where the next thing would. At most `fuel` are read. -/
def enclosedRest {α : Type} (closing : Char) (s : Scan α) : Nat → Scan (List α)
  | 0 => failure
  | fuel + 1 => do
    if (← Scan.maybe (Scan.char closing)).isSome then return []
    let a ← s
    if (← Scan.maybe (Scan.char ',')).isSome then
      return a :: (← enclosedRest closing s fuel)
    Scan.char closing
    return [a]

/-- Things with commas between them, between two marks. -/
def enclosed {α : Type} (opening closing : Char) (s : Scan α) :
    Scan (List α) := do
  Scan.char opening
  fun cs => enclosedRest closing s (cs.length + 1) cs

/-- A text that looks like an integer, or any other. -/
def integerOrText (text : List Char) : Scalar :=
  match Decimal.natural? text with
  | some n =>
    if n < UInt64.size then .unsigned n else .text (String.ofList text)
  | none =>
    match Decimal.integer? text with
    | some i =>
      if Int64.minValue.toInt ≤ i then .signed i
      else .text (String.ofList text)
    | none => .text (String.ofList text)

/-- A text that looks like a number, or any other. -/
def plainScalar (text : List Char) : Scalar :=
  if '.' ∈ text then
    match Decimal.Floating.ofChars? text with
    | some f => .float f
    | none => integerOrText text
  else integerOrText text

/-- Whether a character ends a text without quotation marks. -/
def isSeparator (c : Char) : Bool :=
  c = ',' || c = '\x7b' || c = '\x7d' || c = '[' || c = ']'

/-- A value, with at most so many levels of tables and lists. -/
def settingValue (source : Source) : Nat → Scan Setting
  | 0 => failure
  | depth + 1 => spaced do
    let simple (s : Scalar) : Scan Setting := return .scalar source s
    if (← Scan.maybe (Scan.exactly "true")).isSome then simple (.boolean true)
    else if (← Scan.maybe (Scan.exactly "false")).isSome then
      simple (.boolean false)
    else
      match ← Scan.peek with
      | some '\x7b' =>
        let members ← enclosed '\x7b' '\x7d' (do
          let key ← spaced memberKey
          Scan.char '='
          return (key, ← settingValue source depth))
        return .table source (Keyed.ofList members)
      | some '[' =>
        return .list source (← enclosed '[' ']' (settingValue source depth))
      | some '"' => simple (.text (← quotedText))
      | some '\'' =>
        Scan.char '\''
        let c ← Scan.any
        Scan.char '\''
        simple (.character c)
      | _ => simple (plainScalar (trim (← Scan.span (!isSeparator ·))))

/-- The value of a variable. -/
def ofVariable (source : Source) (text : String) : Setting :=
  let cs := text.toList
  (Scan.whole (settingValue source (cs.length + 1)) cs).getD
    (.scalar source (.text text))

-- ================================================================= keys

/-- The path of keys in the name of a variable after the prefix; empty
keys are kept. -/
def keysOf (name : List Char) : List (List Char) := go [] name
where
  /-- `acc` is the current key, latest character first. -/
  go (acc : List Char) : List Char → List (List Char)
    | '_' :: '_' :: rest => acc.reverse :: go [] rest
    | '.' :: rest => acc.reverse :: go [] rest
    | c :: rest => go (c :: acc) rest
    | [] => [acc.reverse]

/-- The setting of a path. -/
def nested (source : Source) : List String → Setting → Setting
  | [], v => v
  | key :: path, v => .table source [(key, nested source path v)]

/-- What the names of variables begin with, in letters of either case. -/
def variablePrefix : List Char := "regviz_".toList

/-- Names after the prefix that mean something else. -/
def foreignNames : List String := ["log", "config"]

/-- The path of keys that a variable is about, if it is a setting. -/
def pathOf (name : String) : Option (List String) :=
  let cs := name.toList.map Char.toLower
  if variablePrefix.isPrefixOf (trim cs) then
    let keys :=
      (keysOf ((trim cs).drop variablePrefix.length)).map String.ofList
    if keys.any String.isEmpty
      || (keys.length = 1 && keys.any (· ∈ foreignNames)) then none
    else some keys
  else none

/-- The settings in variables, later ones winning. -/
def ofEnvironment (env : Environment) : Setting :=
  (Keyed.ofList env).foldl
    (fun tree (name, text) =>
      match pathOf name with
      | some path =>
        tree.merge (nested .environment path (ofVariable .environment text))
      | none => tree)
    (.table .environment [])

end PatternCheck.Settings
