import PatternCheck.Json.Typed
import PatternCheck.Keyed

/-
Reading a JSON document by the shape that it should have. Members count
in the order of their keys, and of several with one key only the last;
what comes out is the document without the members that nobody asked for.
-/

namespace PatternCheck

open Json

namespace Json.Value

/-- A value, as it is shown where it does not fit. -/
def found : Value → Found
  | null => .null
  | bool b => .boolean b
  | number n => n.found
  | string s => .text s
  | array _ => .list
  | object _ => .table

end Json.Value

namespace Shape

/-- A value that has to be nothing. -/
def nothing : Value → Except Mismatch Unit
  | .null => .ok ()
  | v => .error (.kind v.found "unit")

/-- One of some names, as a string or as the only key of an object with
nothing as its value. -/
def choiceIn (names : List String) : Value → Except Mismatch Value
  | .string s => choice? names s
  | .object members =>
    match Keyed.ofList members with
    | [(key, v)] => do
      let name ← choice? names key
      nothing v
      return name
    | _ => .error (.value .table "map with a single key")
  | v => .error (.kind v.found "string or map")

mutual

/-- A value of some shape. -/
def ofValue : Shape → Value → Except Mismatch Value
  | .boolean, v =>
    match v with
    | .bool _ => .ok v
    | _ => .error (.kind v.found boolean.expected)
  | .text, v =>
    match v with
    | .string _ => .ok v
    | _ => .error (.kind v.found text.expected)
  | .path, v =>
    match v with
    | .string _ => .ok v
    | _ => .error (.kind v.found path.expected)
  | .address, v =>
    match v with
    | .string s => address? s
    | _ => .error (.kind v.found address.expected)
  | .natural name bound, v =>
    match v with
    | .number n => natural? name bound n
    | _ => .error (.kind v.found name)
  | .choice _ names, v => choiceIn names v
  | .optional s, v =>
    match v with
    | .null => .ok .null
    | _ => ofValue s v
  | .record name filled fields, v =>
    match v with
    | .object members => do
      let members := Keyed.ofList members
      let read ← members.filterMapM fun (key, v) => memberNamed key fields v
      match if filled then none else fields.missing? (members.map (·.1)) with
      | some m => .error m
      | none => return .object read
    | .array items => do
      let read ← inOrder name filled fields 0 items
      if fields.length < items.length then
        .error (.length items.length "fewer elements in array")
      else return .object read
    | _ => .error (.kind v.found ("struct " ++ name))

/-- The member of a record with a key, if the record has one. -/
def memberNamed (key : String) :
    Fields → Value → Except Mismatch (Option (String × Value))
  | .nil, _ => .ok none
  | .cons name shape rest, v =>
    if name = key then (ofValue shape v).map fun v => some (key, v)
    else memberNamed key rest v

/-- The members of a record in order, as the items of a list. -/
def inOrder (record : String) (filled : Bool) : Fields → Nat → List Value →
    Except Mismatch (List (String × Value))
  | .nil, _, _ => .ok []
  | .cons _ _ rest, count, [] =>
    if filled then .ok []
    else .error (tooShort record count (count + rest.length + 1))
  | .cons name shape rest, count, v :: vs => do
    let v ← ofValue shape v
    let others ← inOrder record filled rest (count + 1) vs
    return (name, v) :: others

end

end Shape

end PatternCheck
