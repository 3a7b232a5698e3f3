import PatternCheck.Json.Document

/-
Passing over a value that nobody asked for. Its text has to be well
formed, but nothing is made of it: any depth will do, numbers may be as
large as they like, and halves of surrogate pairs may stand alone.
-/

namespace PatternCheck.Json.Cursor

-- ============================================================== strings

/-- Past the rest of a string. -/
def skimString (pos : Nat) : List UInt8 → Except Problem Cursor
  | [] => .error ⟨.stringUnfinished, pos⟩
  | b :: rest =>
    if b = '"'.toUInt8 then .ok ⟨rest, pos + 1⟩
    else if b = '\\'.toUInt8 then
      match rest with
      | [] => .error ⟨.stringUnfinished, pos + 1⟩
      | e :: rest =>
        if e = 'u'.toUInt8 then
          match hexFour ⟨rest, pos + 2⟩ with
          | .error p => .error p
          | .ok _ => skimString (pos + 6) (rest.drop 4)
        else if (lettered? e).isSome then skimString (pos + 2) rest
        else .error ⟨.escapeInvalid, pos + 2⟩
    else if b < 0x20 then .error ⟨.controlCharacter, pos⟩
    else skimString (pos + 1) rest
termination_by bytes => bytes.length
decreasing_by all_goals simp; try omega

-- ============================================================== numbers

/-- Past an exponent. -/
def skimExponent (c : Cursor) : Except Problem Cursor :=
  let (_, c) := (c.advance 1).exponentSign
  let (ds, after) := c.digits
  if ds.isEmpty then c.ahead .numberInvalid else .ok after

/-- Past a fraction and an exponent. -/
def skimFraction (c : Cursor) : Except Problem Cursor :=
  let (ds, after) := (c.advance 1).digits
  if ds.isEmpty then (c.advance 1).ahead .numberInvalid
  else if after.atExponent then after.skimExponent
  else .ok after

/-- Past a number. -/
def skimNumber (c : Cursor) : Except Problem Cursor :=
  let c := if c.at? '-' then c.advance 1 else c
  let (ds, after) := c.digits
  match ds with
  | [] => c.ahead .numberInvalid
  | 0 :: _ :: _ => (c.advance 1).ahead .numberInvalid
  | _ =>
    if after.at? '.' then after.skimFraction
    else if after.atExponent then after.skimExponent
    else .ok after

-- =============================================================== values

/-- Past a value; `fuel` bounds the levels of lists and objects in it. -/
def skim : Nat → Cursor → Except Problem Cursor
  | 0, c => c.here .valueUnfinished
  | fuel + 1, c =>
    let c := c.blanks
    match c.rest with
    | [] => c.here .valueUnfinished
    | b :: _ =>
      if b = 'n'.toUInt8 then c.literal "null"
      else if b = 't'.toUInt8 then c.literal "true"
      else if b = 'f'.toUInt8 then c.literal "false"
      else if b = '-'.toUInt8 || isDigit b then c.skimNumber
      else if b = '"'.toUInt8 then skimString (c.pos + 1) (c.rest.drop 1)
      else if b = '['.toUInt8 then
        let step : Step Unit := fun _ c => (skim fuel c).map ((), ·)
        (items .skimming step c.rest.length true () (c.advance 1)).map (·.2)
      else if b = '\x7b'.toUInt8 then
        let step : Step Unit := fun _ c => do
          let c ← skimString (c.pos + 1) (c.rest.drop 1)
          let c ← c.colon
          (skim fuel c).map ((), ·)
        (members .skimming step c.rest.length true () (c.advance 1)).map (·.2)
      else c.ahead .valueExpected

/-- Past a value, however deep it is. -/
def skimValue (c : Cursor) : Except Problem Cursor :=
  c.skim (c.rest.length + 1)

end PatternCheck.Json.Cursor
