import PatternCheck.Json.Document
import PatternCheck.Log.Event
import PatternCheck.Pattern.Check

/-
Requests to check a pattern, and the answers to them. A request is read
from any bytes: what is no JSON document is the request to check the empty
pattern, and so is a document that has no text to check. The answer comes
with the events that are logged on the way.
-/

namespace PatternCheck.Service

open Json (Value)
open Log (Event)
open Pattern (Limits)

/-- A request to check a pattern. -/
structure Request where
  pattern : String := ""
deriving Repr, DecidableEq, Inhabited

namespace Request

/-- The request that a document is: the text under its key `regex`. -/
def ofDocument (v : Value) : Request := ⟨v.textOr "regex" ""⟩

/-- What is logged about bytes that are no document. -/
def unreadable (reason : String) : Event :=
  { level := .warn
    target := "regviz_core::request"
    message := "unreadable validation request, using empty pattern"
    fields := [("error", .text reason)] }

/-- The request that some bytes are, and what is logged about them. -/
def ofBytes (bytes : List UInt8) : Request × List Event :=
  match Value.ofBytes bytes with
  | .ok v => (ofDocument v, [])
  | .error p => ({}, [unreadable (p.message bytes)])

end Request

/-- The verdict on a pattern: in order, or what is wrong with it. -/
structure Verdict where
  error : Option String
deriving Repr, DecidableEq, Inhabited

namespace Verdict

/-- Whether the pattern is in order. -/
def valid (v : Verdict) : Bool := v.error.isNone

/-- What is logged about a pattern that is not in order. -/
def rejected (reason : String) : Event :=
  { level := .debug
    target := "regviz_core::validator"
    message := "pattern rejected"
    fields := [("error", .text reason)] }

/-- The verdict on a pattern, and what is logged about it. -/
def ofPattern (limits : Limits) (pattern : String) : Verdict × List Event :=
  match limits.check pattern with
  | .ok () => (⟨none⟩, [])
  | .error r => (⟨some r.display⟩, [rejected r.display])

/-- A verdict as a document. -/
def toDocument (v : Verdict) : Value :=
  .object (("valid", .bool v.valid) ::
    match v.error with
    | some e => [("error", .string e)]
    | none => [])

end Verdict

end PatternCheck.Service
