import PatternCheck.Decimal.Floating

/-
Tables of settings, as TOML documents build them up. A table is made
explicitly by a header, or on the way to a table with a longer name, or by
a key with points in it; which of them it was decides how it may be
extended later. Values, and tables and lists in braces and brackets among
them, are complete where they stand.
-/

namespace PatternCheck.Toml

/-- A complete value. Dates and times are tables with one member, which
has their text. -/
inductive Value where
  | string (s : String)
  | integer (i : Int)
  | float (f : Decimal.Floating)
  | boolean (b : Bool)
  | array (items : List Value)
  | table (members : List (String × Value))
deriving Repr, Inhabited

/-- How a table came to be. -/
inductive Origin where
  /-- By its own header, or as an element of an array of tables. -/
  | header
  /-- By the header of a table in it. -/
  | parent
  /-- By a key with points in it. -/
  | dotted
deriving Repr, DecidableEq, Inhabited

/-- What stands under a key while a document is read. -/
inductive Entry where
  | value (v : Value)
  | table (origin : Origin) (members : List (String × Entry))
  /-- An array of tables, the last one first. -/
  | tables (elements : List (List (String × Entry)))
deriving Repr, Inhabited

/-- Members under their keys. -/
abbrev Members := List (String × Entry)

namespace Members

/-- Puts an entry under a key, in place of the one that stands there. -/
def put (key : String) (e : Entry) : Members → Members
  | [] => [(key, e)]
  | (k, d) :: rest =>
    if k = key then (key, e) :: rest else (k, d) :: put key e rest

/-- Adds an entry under a key that is still free. -/
def add? (key : String) (e : Entry) (ms : Members) : Option Members :=
  match ms.lookup key with
  | some _ => none
  | none => some (ms ++ [(key, e)])

/-- Changes the table at the end of a path, making those that are not
there. By a key with points in it no table can be changed that has a
header. `origin` is how the members given came to be, which `change` is
told of the table it changes. -/
def descend (made : Origin) (change : Origin → Members → Option Members) :
    List String → Origin → Members → Option Members
  | [], origin, ms => change origin ms
  | key :: path, _, ms =>
    match ms.lookup key with
    | none => do
      return put key (.table made (← descend made change path made [])) ms
    | some (.value _) => none
    | some (.table origin inner) =>
      if made = .dotted && origin = .header then none
      else do
        return put key
          (.table origin (← descend made change path origin inner)) ms
    | some (.tables []) => none
    | some (.tables (last :: others)) => do
      return put key
        (.tables ((← descend made change path .header last) :: others)) ms

/-- Puts a value under a key with points in it. The table it goes to is
one that such keys make, just if the key has points. -/
def assign (path : List String) (key : String) (v : Value) (origin : Origin)
    (ms : Members) : Option Members :=
  descend .dotted (fun made inner =>
    if made = .dotted ↔ path = [] then none
    else add? key (.value v) inner) path origin ms

/-- Makes the table of a header. One that is there already must have been
made on the way to another one. -/
def open? (path : List String) (key : String) (ms : Members) :
    Option Members :=
  descend .parent (fun _ inner =>
    match inner.lookup key with
    | none => some (put key (.table .header []) inner)
    | some (.table .parent members) =>
      some (put key (.table .header members) inner)
    | some _ => none) path .header ms

/-- Makes a further element of the array of tables of a header. -/
def append? (path : List String) (key : String) (ms : Members) :
    Option Members :=
  descend .parent (fun _ inner =>
    match inner.lookup key with
    | none => some (put key (.tables [[]]) inner)
    | some (.tables elements) =>
      some (put key (.tables ([] :: elements)) inner)
    | some _ => none) path .header ms

end Members

mutual

/-- An entry as a complete value. -/
def Entry.complete : Entry → Value
  | .value v => v
  | .table _ members => .table (completeMembers members)
  | .tables elements => .array (completeElements elements).reverse

/-- Members as complete values. -/
def completeMembers : Members → List (String × Value)
  | [] => []
  | (key, e) :: rest => (key, e.complete) :: completeMembers rest

/-- The elements of an array of tables as complete values. -/
def completeElements : List Members → List Value
  | [] => []
  | ms :: rest => .table (completeMembers ms) :: completeElements rest

end

end PatternCheck.Toml
