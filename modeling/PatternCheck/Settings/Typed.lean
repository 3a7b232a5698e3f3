import PatternCheck.Json.Typed
import PatternCheck.Settings.Setting
import PatternCheck.Text.Quoted

/-
Reading a tree of settings by the shape that it should have. What comes
out is a document of that shape. A setting that does not fit is reported
with the path of keys that leads to it and the source that it comes from.
-/

namespace PatternCheck.Settings

open Json (Value)

-- ============================================================= problems

/-- A setting that does not fit. -/
structure Problem where
  mismatch : Mismatch
  path : List String
  source : Source
deriving Repr, DecidableEq, Inhabited

/-- How numbers with a fraction are shown. -/
def style : Decimal.Style := ⟨-400, 400, false⟩

/-- What was found, in the words of a report on settings. -/
def foundText : Found → String
  | .null => "unit"
  | .boolean true => "bool true"
  | .boolean false => "bool false"
  | .unsigned n => s!"unsigned int `{n}`"
  | .signed i => s!"signed int `{i}`"
  | .float shown => s!"float `{shown}`"
  | .text s => "string " ++ Text.quoted s
  | .list => "sequence"
  | .table => "map"

/-- A list of possible names, in words. -/
def oneOf : List String → String
  | [a] => s!"`{a}`"
  | [a, b] => s!"`{a}` or `{b}`"
  | names =>
    "one of " ++ String.intercalate ", " (names.map fun n => s!"`{n}`")

/-- A mismatch, in the words of a report on settings. -/
def mismatchText : Mismatch → String
  | .kind found expected =>
    s!"invalid type: found {foundText found}, expected {expected}"
  | .value found expected =>
    s!"invalid value {foundText found}, expected {expected}"
  | .length found expected => s!"invalid length {found}, expected {expected}"
  | .unknownName found names =>
    s!"unknown variant: found `{found}`, expected `{oneOf names}`"
  | .missing member => s!"missing field `{member}`"
  | .duplicate member => s!"duplicate field `{member}`"
  | .badAddress => "invalid socket address syntax"

namespace Source

/-- How a source shows a path of keys. -/
def keyText (s : Source) (path : List String) : String :=
  match s with
  | environment => (String.intercalate "." path).map Char.toUpper
  | _ => String.intercalate "." ("default" :: path)

/-- A source, in words. -/
def description : Source → String
  | defaults => "default values"
  | file path => s!"{path} TOML file"
  | environment => "`REGVIZ_` environment variable(s)"

end Source

namespace Problem

/-- The problem in words. -/
def message (p : Problem) : String :=
  let key :=
    if p.path.isEmpty then ""
    else " for key " ++ Text.quoted (p.source.keyText p.path)
  mismatchText p.mismatch ++ key ++ " in " ++ p.source.description

/-- The problem, seen from one level higher. -/
def under (p : Problem) (key : String) : Problem :=
  { p with path := key :: p.path }

end Problem

-- ============================================================== reading

/-- A setting, as it is shown where it does not fit. -/
def Setting.found : Setting → Found
  | .scalar _ .null => .null
  | .scalar _ (.boolean b) => .boolean b
  | .scalar _ (.unsigned n) => .unsigned n
  | .scalar _ (.signed i) => .signed i
  | .scalar _ (.float f) => .float (f.render style)
  | .scalar _ (.text s) => .text s
  | .scalar _ (.character c) => .text (String.singleton c)
  | .list .. => .list
  | .table .. => .table

/-- A setting of another kind than expected. -/
def Setting.wrongKind {α : Type} (s : Setting) (expected : String) :
    Except Problem α :=
  .error ⟨.kind s.found expected, [], s.source⟩

/-- The text that a setting is. -/
def Setting.text? : Setting → Option String
  | .scalar _ (.text s) => some s
  | .scalar _ (.character c) => some (String.singleton c)
  | _ => none

/-- A setting that has to be a text, judged by it. -/
def Setting.textThat (s : Setting) (expected : String)
    (judge : String → Except Mismatch Value) : Except Problem Value :=
  match s.text? with
  | some t =>
    match judge t with
    | .ok v => .ok v
    | .error m => .error ⟨m, [], s.source⟩
  | none => s.wrongKind expected

/-- A setting that has to be a natural number below a bound. -/
def Setting.natural (s : Setting) (name : String) (bound : Nat) :
    Except Problem Value :=
  let within (n : Nat) : Except Problem Value :=
    if n < bound then .ok (.ofNat n)
    else .error ⟨.value s.found name, [], s.source⟩
  match s with
  | .scalar _ (.unsigned n) => within n
  | .scalar _ (.signed i) =>
    if i < 0 then .error ⟨.value s.found name, [], s.source⟩
    else within i.toNat
  | _ => s.wrongKind name

/-- A setting that has to be one of some names: as a text, or as the first
key of a table with nothing as its value. -/
def Setting.choice (s : Setting) (name : String) (names : List String) :
    Except Problem Value :=
  let judged (t : String) : Except Problem Value :=
    match Shape.choice? names t with
    | .ok v => .ok v
    | .error m => .error ⟨m, [], s.source⟩
  match s with
  | .scalar _ (.text t) => judged t
  | .table source [] => .error ⟨.kind .table "enum", [], source⟩
  | .table _ ((key, inner) :: _) => do
    let v ← judged key
    match inner with
    | .scalar _ .null => return v
    | _ => .error ⟨.kind inner.found "unit", [key], inner.source⟩
  | _ => s.wrongKind ("enum " ++ name)

mutual

/-- A setting of some shape. -/
def ofSetting : Shape → Setting → Except Problem Value
  | .boolean, s =>
    match s with
    | .scalar _ (.boolean b) => .ok (.bool b)
    | _ => s.wrongKind Shape.boolean.expected
  | .text, s => s.textThat Shape.text.expected fun t => .ok (.string t)
  | .path, s => s.textThat Shape.path.expected fun t => .ok (.string t)
  | .address, s => s.textThat Shape.address.expected Shape.address?
  | .natural name bound, s => s.natural name bound
  | .choice name names, s => s.choice name names
  | .optional shape, s =>
    match s with
    | .scalar _ .null => .ok .null
    | _ => ofSetting shape s
  | .record name filled fields, s =>
    match s with
    | .table source members => do
      let read ←
        members.filterMapM fun (key, inner) => memberNamed key fields inner
      match if filled then none else fields.missing? (members.map (·.1)) with
      | some m => .error ⟨m, [], source⟩
      | none => return .object read
    | .list source items => do
      return .object (← inOrder name filled source fields 0 items)
    | _ => s.wrongKind ("struct " ++ name)

/-- The member of a record with a key, if the record has one. -/
def memberNamed (key : String) :
    Fields → Setting → Except Problem (Option (String × Value))
  | .nil, _ => .ok none
  | .cons name shape rest, s =>
    if name = key then
      match ofSetting shape s with
      | .ok v => .ok (some (key, v))
      | .error p => .error (p.under key)
    else memberNamed key rest s

/-- The members of a record in order, as the items of a list, which may be
longer. -/
def inOrder (record : String) (filled : Bool) (source : Source) :
    Fields → Nat → List Setting →
    Except Problem (List (String × Value))
  | .nil, _, _ => .ok []
  | .cons _ _ rest, count, [] =>
    if filled then .ok []
    else .error ⟨Shape.tooShort record count (count + rest.length + 1),
      [], source⟩
  | .cons name shape rest, count, s :: others =>
    match ofSetting shape s with
    | .error p => .error (p.under (toString count))
    | .ok v =>
      do return (name, v)
        :: (← inOrder record filled source rest (count + 1) others)

end

end PatternCheck.Settings
