import PatternCheck.Proofs.Json.Trailing
import PatternCheck.Proofs.Service.Requests

/-
Requests that break off, and requests with something behind them. If the
bytes of a request are an object and nothing else, then every part of them
that leaves out the end is refused, and so is every continuation but blanks:
no pattern is taken from a text of which something is missing, or which goes
on to say something else.
-/

namespace PatternCheck.Service

open Json (Value)
open Json.Cursor
  (Spent isBlank ofBytes_object_cut ofBytes_object_trailing
    ofBytes_object_blank)

/-- Bytes that are no document: they ask for the empty pattern, and one
warning is logged. -/
def Unreadable (bytes : List UInt8) : Prop :=
  (∃ p, Value.ofBytes bytes = .error p) ∧
    ∃ e : Log.Event, e.level = .warn ∧ Request.ofBytes bytes = (⟨""⟩, [e])

theorem unreadable_of_error {bytes : List UInt8}
    (h : ∃ p, Value.ofBytes bytes = .error p) : Unreadable bytes := by
  obtain ⟨p, hp⟩ := h
  exact ⟨⟨p, hp⟩, _, rfl, ofBytes_of_error hp⟩

/-- Space, line feed, tab and carriage return. -/
def spaces : List UInt8 := [0x20, 0x0A, 0x09, 0x0D]

/-- The bytes that are passed over are the four blanks. -/
theorem isBlank_iff (b : UInt8) : isBlank b = true ↔ b ∈ spaces := by
  have hspace : ' '.toUInt8 = 0x20 := rfl
  have htab : '\t'.toUInt8 = 0x09 := rfl
  have hfeed : '\n'.toUInt8 = 0x0A := rfl
  have hreturn : '\r'.toUInt8 = 0x0D := rfl
  simp only [isBlank, spaces, hspace, htab, hfeed, hreturn, Bool.or_eq_true,
    decide_eq_true_eq, List.mem_cons, List.not_mem_nil, or_false, or_assoc]

/-- A request that is an object and ends with its brace is not read from any
part of it that breaks off, nor with anything but blanks behind it; with
blanks behind it, it is the same request. -/
theorem request_cut_or_padded {bytes : List UInt8}
    {members : List (String × Value)}
    (hobject : Value.ofBytes bytes = .ok (.object members))
    (hlast : bytes.getLast? = some '\x7d'.toUInt8) :
    (∀ cut, cut <+: bytes → cut ≠ bytes → Unreadable cut)
    ∧ (∀ more, (∃ b ∈ more, b ∉ spaces) → Unreadable (bytes ++ more))
    ∧ ∀ more, (∀ b ∈ more, b ∈ spaces) →
      Request.ofBytes (bytes ++ more) = ((Request.ofBytes bytes).1, []) := by
  refine ⟨fun cut hcut hne => ?_, fun more hmore => ?_, fun more hmore => ?_⟩
  · exact unreadable_of_error (ofBytes_object_cut hobject hlast hcut hne)
  · obtain ⟨b, hb, hother⟩ := hmore
    have hspent : ¬ Spent more := fun h => hother ((isBlank_iff b).1 (h b hb))
    exact unreadable_of_error (ofBytes_object_trailing hobject hlast hspent)
  · have hspent : Spent more := fun b hb => (isBlank_iff b).2 (hmore b hb)
    rw [ofBytes_of_ok hobject,
      ofBytes_of_ok (ofBytes_object_blank hobject hlast hspent)]

/-- A request for `é` that breaks off within this character, that goes on
with another brace, and that ends with a line feed. -/
theorem request_cut_or_padded_accent :
    let bytes := Text.Utf8.encode (requestDocument "é").chars
    Unreadable (bytes.take 11) ∧ Unreadable (bytes ++ [0x20, 0x7D])
      ∧ Request.ofBytes (bytes ++ [0x0A]) = (⟨"é"⟩, []) := by
  have hspells := Json.chars_spells (requestDocument "é") (by
    simp [requestDocument, Value.numbers, Json.membersNumbers])
  have hobject := Value.ofBytes_of_spells hspells.document (by decide)
  obtain ⟨hcut, htrailing, hblank⟩ := request_cut_or_padded hobject (by decide)
  refine ⟨hcut _ (List.take_prefix _ _) (by decide),
    htrailing _ (by decide), ?_⟩
  rw [hblank _ (List.forall_mem_singleton.2 (by decide)),
    ofBytes_requestDocument]

end PatternCheck.Service
