import PatternCheck.Proofs.Json.Documents
import PatternCheck.Proofs.Json.Writing
import PatternCheck.Service.Request

/-
What is asked for by the bytes of a request. Any text of a document with
few enough levels asks for what the document says (`askedText`), however
it is written; with one level more the whole document is lost, and the
empty pattern is checked in its place.
-/

namespace PatternCheck.Service

open Json (Value Spells SpellsMember SpellsChar SpellsChars SpellsString
  SpellsDocument)
open Text.Utf8 (encode)

-- ================================================================ asking

/-- The text that a document asks to check: that of the last of its members
under the key `regex`, if this is a string. -/
def askedText : Value → String
  | .object members =>
    match (members.filter (·.1 = "regex")).getLast? with
    | some (_, .string s) => s
    | _ => ""
  | _ => ""

/-- The last member with a key is the one that counts. -/
theorem lookup_eq_getLast? (key : String) (members : List (String × Value)) :
    Value.lookup key members
      = ((members.filter (·.1 = key)).getLast?).map (·.2) := by
  rw [Value.lookup, ← List.head?_filter, List.getLast?_eq_head?_reverse,
    List.filter_reverse]
  rfl

/-- A document asks for one text. -/
theorem ofDocument_eq (v : Value) : Request.ofDocument v = ⟨askedText v⟩ := by
  rw [Request.ofDocument, Value.textOr]
  cases v with
  | object members =>
      rw [Value.get?, lookup_eq_getLast?, askedText]
      generalize (members.filter (·.1 = "regex")).getLast? = last
      rcases last with _ | ⟨key, v⟩
      · rfl
      · cases v <;> rfl
  | null | bool | number | string | array => rfl

/-- The document that asks to check a text, and nothing else. -/
def requestDocument (s : String) : Value := .object [("regex", .string s)]

-- ================================================================ reading

/-- Bytes that are a document ask for what it says, and nothing is logged. -/
theorem ofBytes_of_ok {bytes : List UInt8} {v : Value}
    (h : Value.ofBytes bytes = .ok v) :
    Request.ofBytes bytes = (⟨askedText v⟩, []) := by
  rw [Request.ofBytes, h, ← ofDocument_eq]

/-- Bytes that are no document ask for the empty pattern, and that is
logged as a warning. -/
theorem ofBytes_of_error {bytes : List UInt8} {p : Json.Problem}
    (h : Value.ofBytes bytes = .error p) :
    Request.ofBytes bytes
      = (⟨""⟩, [Request.unreadable (p.message bytes)]) := by
  rw [Request.ofBytes, h]

/-- A text with few enough levels asks for what its document says. -/
theorem ofBytes_of_text {v : Value} {cs : List Char} (h : SpellsDocument v cs)
    (hdepth : v.depth ≤ 127) :
    Request.ofBytes (encode cs) = (⟨askedText v⟩, []) :=
  ofBytes_of_ok (Value.ofBytes_of_spells h hdepth)

/-- Every pattern can be asked for. -/
theorem ofBytes_requestDocument (s : String) :
    Request.ofBytes (encode (requestDocument s).chars) = (⟨s⟩, []) := by
  have htext := Json.chars_spells (requestDocument s) (by
    simp [requestDocument, Value.numbers, Json.membersNumbers])
  have hdepth : (requestDocument s).depth ≤ 127 := by
    simp [requestDocument, Value.depth, Json.membersDepth]
  exact ofBytes_of_text htext.document hdepth

/-- Every text of a document asks for what the document says, as long as it
has at most 127 levels of lists and objects; with more levels it asks for
the empty pattern, with a warning. Every pattern can be asked for. -/
theorem request_of_text :
    (∀ v cs, SpellsDocument v cs → v.depth ≤ 127 →
      Request.ofBytes (encode cs) = (⟨askedText v⟩, []))
    ∧ (∀ v cs, SpellsDocument v cs → 128 ≤ v.depth →
      ∃ e : Log.Event, e.level = .warn
        ∧ Request.ofBytes (encode cs) = (⟨""⟩, [e]))
    ∧ ∀ s, Request.ofBytes (encode (requestDocument s).chars) = (⟨s⟩, []) := by
  refine ⟨fun v cs h hdepth => ofBytes_of_text h hdepth,
    fun v cs h hdepth => ?_, ofBytes_requestDocument⟩
  obtain ⟨pos, hp⟩ := Value.ofBytes_of_spells_deep h hdepth
  exact ⟨_, rfl, ofBytes_of_error hp⟩

/-- A key that is written twice, once with an escape, and a character that
is written as a surrogate pair; and lists in 128 levels. -/
theorem request_of_escaped_key :
    Request.ofBytes (encode
      "\x7b\"regex\":[1],\n \"re\\u0067ex\" : \"\\ud83d\\ude00(\" \x7d".toList)
      = (⟨"😀("⟩, [])
    ∧ ∃ e : Log.Event, e.level = .warn
      ∧ Request.ofBytes
          (encode (List.replicate 128 '[' ++ List.replicate 128 ']'))
        = (⟨""⟩, [e]) := by
  have plain {c : Char} (h : c ≠ '"' ∧ c ≠ '\\' ∧ 0x20 ≤ c.toNat) :
      SpellsChar c [c] :=
    .itself h.1 h.2.1 h.2.2
  have g : SpellsChar 'g' ['\\', 'u', '0', '0', '6', '7'] :=
    .numbered (.digits (.decimal (n := 0) (by decide) rfl)
      (.decimal (n := 0) (by decide) rfl)
      (.decimal (n := 6) (by decide) rfl) (.decimal (n := 7) (by decide) rfl))
  have face :
      SpellsChar '😀' ['\\', 'u', 'd', '8', '3', 'd', '\\', 'u', 'd', 'e',
        '0', '0'] :=
    .paired (.digits (.small (n := 3) (by decide) rfl)
      (.decimal (n := 8) (by decide) rfl)
      (.decimal (n := 3) (by decide) rfl) (.small (n := 3) (by decide) rfl))
      (.digits (.small (n := 3) (by decide) rfl)
        (.small (n := 4) (by decide) rfl)
      (.decimal (n := 0) (by decide) rfl) (.decimal (n := 0) (by decide) rfl))
      (by decide) (by decide) (by decide) (by decide) (by decide)
  have re {cs es : List Char} (h : SpellsChars cs es) :
      SpellsChars ('r' :: 'e' :: cs) _ :=
    .cons (plain (by decide)) (.cons (plain (by decide)) h)
  have ex : SpellsChars ['e', 'x'] _ :=
    .cons (plain (by decide)) (.cons (plain (by decide)) .nil)
  have regex : SpellsChars ['r', 'e', 'g', 'e', 'x'] _ :=
    re (.cons (plain (by decide)) ex)
  have escaped : SpellsChars ['r', 'e', 'g', 'e', 'x'] _ := re (.cons g ex)
  have pattern : SpellsChars ['😀', '('] _ :=
    .cons face (.cons (plain (by decide)) .nil)
  have one : Spells (.number (.natural 1)) _ :=
    .number (m := ⟨false, [1], [], none, by decide, by decide⟩) (by decide)
  have first : SpellsMember ("regex", .array [.number (.natural 1)]) _ :=
    .member (.quoted (s := "regex") regex) .nil .nil
      (.array (.one .nil one .nil))
  have second : SpellsMember ("regex", .string "😀(") _ :=
    .member (a := [' ']) (b := [' ']) (.quoted (s := "regex") escaped)
      (by decide) (by decide) (.string (.quoted (s := "😀(") pattern))
  obtain ⟨cs, hcs, text⟩ : ∃ cs,
      "\x7b\"regex\":[1],\n \"re\\u0067ex\" : \"\\ud83d\\ude00(\" \x7d".toList
        = cs ∧
      SpellsDocument (.object [("regex", .array [.number (.natural 1)]),
        ("regex", .string "😀(")])
        cs :=
    ⟨_, by decide +kernel, .around .nil (.object (.more .nil first .nil
      (.one (a := ['\n', ' ']) (b := [' ']) (by decide) second (by decide))))
      .nil⟩
  have lists : ∀ n, ∃ v : Value, v.depth = n + 1
      ∧ Spells v (List.replicate (n + 1) '['
          ++ List.replicate (n + 1) ']') := by
    intro n
    induction n with
    | zero => exact ⟨.array [], rfl, .emptyArray .nil⟩
    | succ n ih =>
        obtain ⟨v, hv, hspells⟩ := ih
        refine ⟨.array [v], by simp [Value.depth, Json.itemsDepth, hv], ?_⟩
        have := Spells.array (.one .nil hspells .nil)
        rw [List.replicate_succ, List.replicate_succ' (n := n + 1)]
        simpa using this
  obtain ⟨v, hv, hlists⟩ := lists 127
  refine ⟨?_, request_of_text.2.1 v _ hlists.document (by omega)⟩
  rw [hcs]
  exact request_of_text.1 _ _ text (by decide)

end PatternCheck.Service
