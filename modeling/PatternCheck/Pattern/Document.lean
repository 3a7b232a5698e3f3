import PatternCheck.Json.Value
import PatternCheck.Pattern.Check
import PatternCheck.Shape.Basic

/-
Limits and diagnostics as documents. Limits may be given in part, and what
is left out has its default value; a diagnostic has to have a message.
-/

namespace PatternCheck.Pattern

open Json (Value)

/-- The shape of limits in a document. -/
def Limits.shape : Shape :=
  .record "Limits" true <|
    .ofList [("size_limit", .size), ("nest_limit", .count)]

/-- The limits that a document of their shape describes. -/
def Limits.ofDocument (v : Value) : Limits :=
  let base : Limits := {}
  { size := v.naturalOr "size_limit" base.size,
    nesting := v.naturalOr "nest_limit" base.nesting }

/-- Limits as a document. -/
def Limits.toDocument (l : Limits) : Value :=
  .object [("size_limit", .ofNat l.size), ("nest_limit", .ofNat l.nesting)]

/-- The shape of a diagnostic in a document. -/
def Diagnostic.shape : Shape :=
  .record "Diagnostic" false <|
    .ofList [("message", .text), ("position", .optional .size)]

/-- The diagnostic that a document of its shape describes. -/
def Diagnostic.ofDocument (v : Value) : Diagnostic :=
  { message := v.textOr "message" "",
    position := (v.get? "position").bind (·.natural?) }

/-- A diagnostic as a document. -/
def Diagnostic.toDocument (d : Diagnostic) : Value :=
  .object [("message", .string d.message),
    ("position", .ofOption .ofNat d.position)]

end PatternCheck.Pattern
