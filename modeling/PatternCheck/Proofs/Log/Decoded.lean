import PatternCheck.Proofs.Log.Shown
import PatternCheck.Proofs.Settings.Reading
import PatternCheck.Proofs.Text.Lines

/-
Logs read back. A program that collects a log takes it apart into lines and
reads each of them as a JSON object: the level, the target if it is shown,
and the fields, the message among them (`Reading.ofLine?`). Where the fields
have an object of their own it reads just the events that were logged, in
their order, whatever texts there are in them: a line is printable from end
to end (`jsonText_reads`), so nothing in an event can end it early or begin
another one.
-/

namespace PatternCheck.Log

open Json (Value)
open Text.Utf8 (encode)

-- ================================================================ readings

/-- The level with a name. -/
def Level.ofName? (name : String) : Option Level :=
  Level.all.find? (·.name == name)

theorem Level.ofName?_name (l : Level) : ofName? l.name = some l := by
  cases l <;> decide

/-- What a program reads of an event: its level, its target if there is one,
and its fields, of which the message is the first. -/
structure Reading where
  level : Level
  target : Option Value
  fields : List (String × Value)

namespace Reading

/-- What a line of a log is read as. -/
def ofLine? (line : List Char) : Option Reading := do
  let v ← (Value.ofBytes (encode line)).toOption
  let name ← (← v.get? "level").text?
  let level ← Level.ofName? name
  match v.get? "fields" with
  | some (.object fields) => return ⟨level, v.get? "target", fields⟩
  | _ => none

/-- What there is to be read of an event. -/
def ofEvent (d : Display) (e : Event) : Reading where
  level := e.level
  target := if d.target then some (.string e.target) else none
  fields := e.members

end Reading

-- =================================================================== lines

variable {d : Display} {e : Event}

/-- The members of a line, each under its key. -/
theorem get?_jsonMembers (nested : d.flatten = false) (now : Moment)
    (e : Event) :
    let v : Value := .object (jsonMembers d now e)
    v.get? "level" = some (.string e.level.name) ∧
      v.get? "fields" = some (.object e.members) ∧
      v.get? "target"
        = if d.target then some (.string e.target) else none := by
  intro v
  have first (key : String) : v.get? key = (jsonMembers d now e).lookup key :=
    Value.lookup_of_nodup (nodup_of_nested nested) key
  have shown (flag : Bool) (key name text : String) :
      (shownMember flag name text).lookup key
        = if key = name ∧ flag = true then some (.string text) else none := by
    unfold shownMember
    cases flag <;> by_cases h : key = name
      <;> simp [List.lookup_cons, h, beq_eq_false_iff_ne.2]
  have place :
      (placeMembers d.source (now.place e)).lookup "target" = none := by
    unfold placeMembers
    split <;> simp [List.lookup_cons]
  refine ⟨?_, ?_, ?_⟩ <;>
    simp [first, jsonMembers_eq, nested, List.lookup_append, shown, place,
      List.lookup_cons]

/-- A line is read as what there is to be read of its event. -/
theorem ofLine?_jsonText (nested : d.flatten = false) (now : Moment)
    (h : e.Spelled) :
    ∃ line, (jsonText d now e).toList = line ++ ['\n'] ∧ Text.StaysLine line ∧
      Reading.ofLine? line = some (.ofEvent d e) := by
  obtain ⟨line, text, printable, read⟩ := jsonText_reads d now h
  obtain ⟨level, fields, target⟩ := get?_jsonMembers nested now e
  refine ⟨line.toList, ?_, ⟨printable.noLine, fun hreturn => ?_⟩, ?_⟩
  · rw [text, String.toList_append]
    rfl
  · exact absurd (printable _ (List.mem_of_getLast? hreturn)) (by decide)
  · unfold Reading.ofLine?
    simp [read, Except.toOption, level, fields, target, Value.text?,
      Level.ofName?_name, Reading.ofEvent]

-- ==================================================================== runs

/-- All numbers among the fields of what happens in a run can be written. -/
theorem spelled_of_happening {c : Config} {start : Moment}
    {steps : List (Moment × Step)} {terminal : Bool} {h : Happening}
    (hh : h ∈ (start, c.announcement terminal) :: happenings steps) :
    h.2.Spelled := by
  rcases List.mem_cons.1 hh with rfl | hh
  · exact spelled_installed ⟨c, ⟨[]⟩⟩ terminal
  · obtain ⟨reason, fields⟩ := fields_of_happenings hh
    exact spelled_of_error fields

/-- The texts of some events, one after the other, are lines that are read
as these events. -/
theorem lines_jsonTexts {hs : List Happening} (nested : d.flatten = false)
    (spelled : ∀ h ∈ hs, h.2.Spelled) : ∃ ls : List (List Char),
    (hs.map fun h => jsonText d h.1 h.2).flatMap String.toList
      = ls.flatMap (· ++ ['\n']) ∧ (∀ l ∈ ls, Text.StaysLine l) ∧
      ls.map Reading.ofLine? = hs.map fun h => some (.ofEvent d h.2) := by
  induction hs with
  | nil => exact ⟨[], rfl, List.forall_mem_nil _, rfl⟩
  | cons h hs ih =>
      obtain ⟨first, rest⟩ := List.forall_mem_cons.1 spelled
      obtain ⟨ls, text, stay, read⟩ := ih rest
      obtain ⟨line, text', stay', read'⟩ := ofLine?_jsonText nested h.1 first
      refine ⟨line :: ls, ?_, List.forall_mem_cons.2 ⟨stay', stay⟩, ?_⟩
      · rw [List.map_cons, List.flatMap_cons, List.flatMap_cons, text, text']
      · rw [List.map_cons, List.map_cons, read', read]

/-- A log in JSON whose fields have an object of their own is read back as
what was logged. A process that installs a logger and makes some steps
writes nothing but lines, as many as there are events that the filter
admits, and each line is read as the event at the same place: its level,
its message and its fields with their values, and its target where this is
shown. -/
theorem lines_decoded (c : Config) {f : Filter} (json : c.format = .json)
    (nested : c.display.flatten = false)
    (parses : Filter.ofText c.level = .ok f) (terminal : Stream → Bool)
    (start : Moment) (steps : List (Moment × Step)) :
    let logged := Logger.admitted ⟨c, f⟩
      ((start, c.announcement (terminal c.writer)) :: happenings steps)
    ∃ j, Journal.install { terminal } start c = .ok j ∧
      let text := ((j.after steps).output c.writer).toList
      text = (Text.lines text).flatMap (· ++ ['\n']) ∧
        (Text.lines text).map Reading.ofLine?
          = logged.map (fun h => some (.ofEvent c.display h.2)) ∧
        ∀ s, s ≠ c.writer → (j.after steps).output s = "" := by
  intro logged
  obtain ⟨j, install, written⟩ :=
    Journal.after_install_written parses terminal start steps
  have output := output_of_written written
  have spelled : ∀ h ∈ logged, h.2.Spelled :=
    fun h hh => spelled_of_happening (List.mem_of_mem_filter hh)
  obtain ⟨ls, texts, stay, read⟩ := lines_jsonTexts nested spelled
  have text :
      ((j.after steps).output c.writer).toList = ls.flatMap (· ++ ['\n']) := by
    rw [output, if_pos rfl, String.toList_join, ← texts]
    refine congrArg (List.flatMap String.toList)
      (List.map_congr_left fun h _ => ?_)
    rw [Config.render, json]
  refine ⟨j, install, ?_⟩
  intro text'
  have lines : Text.lines text' = ls := by
    rw [show text' = _ from text, Text.lines_flatMap stay]
  refine ⟨lines ▸ text, lines ▸ read, fun s hs => ?_⟩
  rw [output]
  exact if_neg hs

/-- The text of a filter with a quotation mark, a backslash and a line feed
in it, and a document that cannot be read: two lines. -/
theorem lines_decoded_odd_filter :
    let c : Config :=
      { Config.standard .debug with
        level := "debug,a\"\\\n\x01é"
        format := .json
        display :=
          { Display.standard .debug with time := false, flatten := false } }
    let f : Filter :=
      ⟨[{ threshold := some .debug }, { target := some "a\"\\\n\x01é" }]⟩
    let now : Moment := ⟨"12:00", "main", 1, fun _ => default⟩
    Filter.ofText c.level = .ok f ∧
      ∃ j, Journal.install {} now c = .ok j ∧
        ((Text.lines
          ((j.after [(now, .request [])]).output .stderr).toList).map
            Reading.ofLine?).map (·.map fun r => (r.level, r.fields.length))
          = [some (.debug, 4), some (.warn, 2)] := by
  intro c f now
  have parses : Filter.ofText c.level = .ok f := by
    unfold c f
    decide
  obtain ⟨j, install, -, read, -⟩ :=
    lines_decoded c rfl rfl parses (fun _ => false) now [(now, .request [])]
  have writer : c.writer = .stderr := rfl
  refine ⟨parses, j, install, ?_⟩
  rw [← writer, read]
  unfold c f now
  decide

end PatternCheck.Log
