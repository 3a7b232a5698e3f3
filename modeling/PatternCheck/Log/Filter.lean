import PatternCheck.Decimal.Floating
import PatternCheck.Log.Event
import PatternCheck.Pattern.Check

/-
Filters decide which events are logged. A filter is a list of directives
with commas between them; a directive says up to which level events are
logged if they come from some target and have some fields. Of the
directives that apply to an event the most specific one decides: the one
with the longest target, then the one with the most fields.

A directive has the form `target[span{field=value}]=level`, and every
part of it may be left out. Directives with a span, or with values of
fields, are about what happens inside spans and say nothing about an
event outside of one.
-/

namespace PatternCheck.Log

open Text (isBlank trim)

-- ============================================================ thresholds

/-- The least severe level that is logged, or none where nothing is. -/
abbrev Threshold := Option Level

namespace Threshold

/-- Whether events of a level are logged. -/
def admits (t : Threshold) (l : Level) : Bool :=
  t.any fun most => l.rank ≤ most.rank

/-- A text in lower-case letters, as far as they are ASCII. -/
def lower (s : String) : String := String.ofList (s.toList.map Char.toLower)

/-- A threshold by its number. -/
def ofNumber? : Nat → Option Threshold
  | 0 => some none
  | n => (Level.all[n - 1]?).map some

/-- A threshold by its name, in letters of either case. -/
def ofName? (name : String) : Option Threshold :=
  if lower name = "off" then some none
  else (Level.all.find? fun l => lower l.name == lower name).map some

/-- The threshold that a text is. -/
def ofText? (text : String) : Option Threshold :=
  ((Decimal.natural? text.toList).bind ofNumber?).or (ofName? text)

end Threshold

-- ============================================================ directives

/-- A field that an event must have, and the text its value must have. -/
structure FieldFilter where
  name : String
  value : Option String
deriving Repr, DecidableEq, Inhabited

/-- One part of a filter. -/
structure Directive where
  target : Option String := none
  span : Option String := none
  fields : List FieldFilter := []
  threshold : Threshold := some .trace
deriving Repr, DecidableEq, Inhabited

/-- Why a filter is refused. -/
inductive FilterFault where
  /-- A directive has not the form of one. -/
  | form
  /-- The level of a directive is none. -/
  | level
  /-- The value of a field is a pattern that is none. -/
  | value
  /-- The value of a field is a pattern with a condition that the automata
  for such values do not know. -/
  | condition
deriving Repr, DecidableEq, Inhabited

/-- The fault in words. -/
def FilterFault.message : FilterFault → String
  | form => "invalid filter directive"
  | level =>
    "error parsing level filter: expected one of \"off\", \"error\", "
      ++ "\"warn\", \"info\", \"debug\", \"trace\", or a number 0-5"
  | value => "invalid field filter: error building NFA"
  | condition => "invalid field filter: unsupported regex feature for DFAs"

namespace Directive

/-- What is wrong with the value of a field: it has to be a number, or a
pattern without conditions on words of any script. -/
def valueFault? (text : String) : Option FilterFault :=
  if (Decimal.Floating.ofChars? text.toList).isSome then none
  else
    match Pattern.analyse 250 text.toList with
    | .ok m => if m.hasWordsOfAnyScript then some .condition else none
    | .error _ => some .value

/-- A field filter: a name, and after an equality sign a value. What
follows a second equality sign is ignored. -/
def fieldFilter (text : String) : Except FilterFault FieldFilter :=
  if text.isEmpty then .error .form
  else
    match text.splitOn "=" with
    | name :: value :: _ =>
      match valueFault? value with
      | some fault => .error fault
      | none => .ok ⟨name, some value⟩
    | name :: [] => .ok ⟨name, none⟩
    | [] => .error .form

/-- Which part of a directive is being read, and where it begins. -/
inductive Phase where
  | start
  | targetOrLevel (begin : Nat)
  | span (begin : Nat)
  | field (begin : Nat)
  | afterField
  | afterSpan
  | level (begin : Nat)
deriving Repr, DecidableEq, Inhabited

/-- The characters of a text that stand between two numbers of bytes. A
number that falls inside a character counts as the place after it. The
program cannot cut a text at such a number, and stops; it comes to one only
where blanks of several bytes stand before a directive. -/
def between (start stop : Nat) : Nat → List Char → List Char
  | _, [] => []
  | pos, c :: rest =>
    let others := between start stop (pos + c.utf8Size) rest
    if start ≤ pos && pos < stop then c :: others else others

/-- A level; none is written for the least severe one. -/
def levelNamed (text : String) : Except FilterFault Threshold :=
  if text.isEmpty then .ok (some .trace)
  else
    match Threshold.ofText? text with
    | some t => .ok t
    | none => .error .level

/-- Whether a directive can begin with a character. -/
def canBegin (c : Char) : Bool :=
  c = '-' || c = ':' || c = '_' || Pattern.isAlphabetic c
    || Pattern.isNumeric c

/-- What a character that comes after `pos` bytes makes of a directive.
`cut` gives the part of the text between two places. -/
def step (cut : Nat → Nat → String) (d : Directive) (phase : Phase) (pos : Nat)
    (c : Char) : Except FilterFault (Directive × Phase) :=
  match phase with
  | .start =>
    if c = '[' then .ok (d, .span (pos + 1))
    else if canBegin c then .ok (d, .targetOrLevel pos)
    else .error .form
  | .targetOrLevel begin =>
    if c = '=' then
      .ok ({ d with target := some (cut begin pos) }, .level (pos + 1))
    else if c = '[' then
      .ok ({ d with target := some (cut begin pos) }, .span (pos + 1))
    else .ok (d, phase)
  | .span begin =>
    let name := cut begin pos
    if c = ']' then .ok ({ d with span := some name }, .afterSpan)
    else if c = '\x7b' then
      .ok ({ d with span := if name.isEmpty then none else some name },
        .field (pos + 1))
    else .ok (d, phase)
  | .field begin =>
    if c = '\x7d' then
      match fieldFilter (cut begin pos) with
      | .ok f => .ok ({ d with fields := d.fields ++ [f] }, .afterField)
      | .error e => .error e
    else .ok (d, phase)
  | .afterField => if c = ']' then .ok (d, .afterSpan) else .error .form
  | .afterSpan => if c = '=' then .ok (d, .level (pos + 1)) else .error .form
  | .level _ => .ok (d, phase)

/-- What the end of a directive makes of it; `cutFrom` gives the part of
the text after a place. -/
def finish (cutFrom : Nat → String) (d : Directive) :
    Phase → Except FilterFault Directive
  | .targetOrLevel begin =>
    let text := cutFrom begin
    match if text.isEmpty then some (some .trace)
      else Threshold.ofText? text with
    | some t => .ok { d with threshold := t }
    | none => .ok { d with target := some text }
  | .level begin =>
    (levelNamed (cutFrom begin)).map fun t => { d with threshold := t }
  | .afterSpan => .ok d
  | _ => .error .form

/-- Reads the characters of a directive from a place on. -/
def run (cut : Nat → Nat → String) (cutFrom : Nat → String) (d : Directive)
    (phase : Phase) (pos : Nat) : List Char → Except FilterFault Directive
  | [] => finish cutFrom d phase
  | c :: rest =>
    match step cut d phase pos c with
    | .error e => .error e
    | .ok (d, phase) => run cut cutFrom d phase (pos + c.utf8Size) rest

/-- The directive that a text is. Blanks at the ends do not count when its
parts are told apart; but places are then looked up in the text with its
blanks, so that leading ones shift all parts. -/
def ofChars (text : List Char) : Except FilterFault Directive :=
  let cut start stop := String.ofList (between start stop 0 text)
  run cut (fun start => cut start (Text.Utf8.length text)) {} .start 0
    (trim text)

/-- Whether a directive is about spans only. -/
def inSpans (d : Directive) : Bool :=
  d.span.isSome || d.fields.any (·.value.isSome)

/-- Whether a directive applies to an event outside of spans. -/
def applies (d : Directive) (e : Event) : Bool :=
  !d.inSpans && d.target.all (·.toList.isPrefixOf e.target.toList)
    && d.fields.all fun f => f.name ∈ e.fieldNames

/-- How specific a directive is: the bytes of its target, where none comes
before the empty one, and its fields. -/
def specificity (d : Directive) : Nat × Nat :=
  (match d.target with
    | none => 0
    | some t => Text.Utf8.length t.toList + 1,
    d.fields.length)

/-- The order of lists of names. -/
def namesLe : List String → List String → Bool
  | [], _ => true
  | _ :: _, [] => false
  | a :: as, b :: bs => if a = b then namesLe as bs else a < b

/-- Whether the second of two directives decides about an event to which
both apply. Between equally specific ones the names of the fields decide,
and between equal ones the later. -/
def yields (a b : Directive) : Bool :=
  let (m, n) := a.specificity
  let (m', n') := b.specificity
  let named := namesLe (a.fields.map (·.name)) (b.fields.map (·.name))
  m < m' || (m = m' && (n < n' || (n = n' && named)))

end Directive

-- =============================================================== filters

/-- What is logged. -/
structure Filter where
  directives : List Directive
deriving Repr, DecidableEq, Inhabited

namespace Filter

/-- The parts of a text between commas. -/
def parts : List Char → List (List Char)
  | [] => [[]]
  | c :: rest =>
    match parts rest with
    | [] => [[c]]
    | part :: others =>
      if c = ',' then [] :: part :: others else (c :: part) :: others

/-- What is logged where nothing is said. -/
def unspecified : Directive := { threshold := some .error }

/-- The filter that a text is. Empty parts do not count; where there are
no others, errors are logged. -/
def ofText (text : String) : Except FilterFault Filter := do
  let directives ←
    ((parts text.toList).filter (!·.isEmpty)).mapM Directive.ofChars
  return ⟨if directives.isEmpty then [unspecified] else directives⟩

/-- The directive that decides about an event. -/
def decisive? (f : Filter) (e : Event) : Option Directive :=
  (f.directives.filter (·.applies e)).foldl
    (fun best d => match best with
      | none => some d
      | some b => if b.yields d then some d else some b) none

/-- Whether an event is logged. -/
def admits (f : Filter) (e : Event) : Bool :=
  (f.decisive? e).any (·.threshold.admits e.level)

end Filter

end PatternCheck.Log
