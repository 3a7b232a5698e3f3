import PatternCheck.Proofs.Json.Documents
import PatternCheck.Proofs.Json.Naturals
import PatternCheck.Proofs.Json.Writing
import PatternCheck.Proofs.Log.Written
import Mathlib.Data.List.Basic

/-
Lines for programs. A line in JSON can be read back as the members that it
was made of, so whoever reads it depends on their keys: those of the line
itself, and, unless the fields of the event have an object of their own,
those of the fields beside them (`keys_jsonMembers`). Fields with names of
their own keep a line unambiguous (`unambiguous_iff`); the one event with
a field that is called like a member of the line is the first event of the
logger itself, so its line is the only one of which a reader cannot tell
the level.
-/

namespace PatternCheck.Log

open Json (Value)
open Text.Utf8 (encode)

variable {d : Display} {now : Moment} {e : Event} {level : Level}

-- ============================================================== members

/-- The members that come from an event itself. -/
def Event.members (e : Event) : List (String × Value) :=
  ("message", .string e.message) :: e.fields.map fun f => (f.1, f.2.toDocument)

/-- The keys are the names of the fields, after that of the message. -/
theorem Event.keys_members (e : Event) :
    e.members.map (·.1) = e.fieldNames := by
  simp [Event.members, Event.fieldNames, Function.comp_def]

/-- A member of a line by its own. -/
def shownMember (flag : Bool) (key text : String) : List (String × Value) :=
  if flag then [(key, .string text)] else []

/-- The members that say which place in the sources logs an event. -/
def placeMembers (flag : Bool) (p : Place) : List (String × Value) :=
  if flag then [("filename", .string p.file),
    ("line_number", .ofNat p.line.toNat)] else []

/-- The members of a line, one part of it after the other. -/
theorem jsonMembers_eq (d : Display) (now : Moment) (e : Event) :
    jsonMembers d now e =
      shownMember d.time "timestamp" now.time
        ++ [("level", .string e.level.name)]
        ++ (if d.flatten then e.members else [("fields", .object e.members)])
        ++ shownMember d.target "target" e.target
        ++ placeMembers d.source (now.place e)
        ++ shownMember d.threadNames "threadName" now.threadName
        ++ shownMember d.threadIds "threadId" s!"ThreadId({now.threadId})" :=
  rfl

/-- What holds of texts, of the numbers of lines and of the fields holds of all
members. -/
theorem forall_mem_jsonMembers {P : Value → Prop} (text : ∀ s, P (.string s))
    (line : ∀ n < UInt32.size, P (.ofNat n))
    (fields : ∀ f ∈ e.fields, P f.2.toDocument)
    (nested : P (.object e.members)) : ∀ m ∈ jsonMembers d now e, P m.2 := by
  have shown (flag : Bool) (key s : String) :
      ∀ m ∈ shownMember flag key s, P m.2 := by
    cases flag <;> simp [shownMember, text]
  have event :
      ∀ m ∈ (if d.flatten then e.members else [("fields", .object e.members)]),
      P m.2 := by
    split
    · exact List.forall_mem_cons.2 ⟨text _, List.forall_mem_map.2 fields⟩
    · simpa using nested
  have place : ∀ m ∈ placeMembers d.source (now.place e), P m.2 := by
    unfold placeMembers
    split
    · simpa using ⟨text _, line _ (now.place e).line.toNat_lt⟩
    · exact List.forall_mem_nil _
  simp only [jsonMembers_eq, List.forall_mem_append, List.forall_mem_singleton]
  exact ⟨⟨⟨⟨⟨⟨shown _ _ _, text _⟩, event⟩, shown _ _ _⟩, place⟩, shown _ _ _⟩,
    shown _ _ _⟩

-- ========================================================== reading back

/-- A value of a field has no parts. -/
theorem FieldValue.toDocument_flat (v : FieldValue) :
    v.toDocument.depth = 0 ∧ v.toDocument.Distinct := by
  cases v <;> exact ⟨rfl, trivial⟩

/-- All numbers among the fields are written as texts of them. -/
def Event.Spelled (e : Event) : Prop := ∀ f ∈ e.fields, f.2.toDocument.Spelled

theorem Event.Spelled.members (h : e.Spelled) : ∀ m ∈ e.members, m.2.Spelled :=
  List.forall_mem_cons.2 ⟨fun _ hn =>
    absurd hn List.not_mem_nil, List.forall_mem_map.2 h⟩

theorem Event.depth_members (e : Event) : Json.membersDepth e.members ≤ 0 :=
  Json.membersDepth_le_iff.2 (List.forall_mem_cons.2 ⟨Nat.le_refl 0,
    List.forall_mem_map.2 fun f _ => Nat.le_of_eq f.2.toDocument_flat.1⟩)

/-- All numbers on a line are written as texts of them, that of the place in
the sources, too. -/
theorem jsonMembers_spelled (d : Display) (now : Moment) (h : e.Spelled) :
    (Value.object (jsonMembers d now e)).Spelled := by
  refine Json.membersNumbers_spelled (forall_mem_jsonMembers
    (fun _ _ hn => absurd hn List.not_mem_nil) (fun n hn m hm => ?_) h
    (Json.membersNumbers_spelled h.members))
  rw [List.mem_singleton.1 hm]
  exact Json.natural_spelled (Nat.lt_trans hn (by decide))

/-- Nothing on a line is deeper than the object of the fields. -/
theorem jsonMembers_depth :
    (Value.object (jsonMembers d now e)).depth ≤ 2 := by
  refine Nat.succ_le_succ (Json.membersDepth_le_iff.2 (forall_mem_jsonMembers
    (P := fun v => v.depth ≤ 1) (fun _ => Nat.zero_le 1)
    (fun _ _ => Nat.zero_le 1) (fun f _ => ?_) ?_))
  · exact Nat.le_trans (Nat.le_of_eq f.2.toDocument_flat.1) (Nat.zero_le 1)
  · exact Nat.succ_le_succ e.depth_members

/-- A line is read back as the members it was made of. -/
theorem jsonText_reads (d : Display) (now : Moment) (h : e.Spelled) :
    ∃ line, jsonText d now e = line ++ "\n" ∧ Json.Printable line.toList ∧
      Value.ofBytes (encode line.toList)
        = .ok (.object (jsonMembers d now e)) := by
  have spelled := jsonMembers_spelled d now h
  refine ⟨_, rfl, ?_, ?_⟩
  · rw [Value.render, String.toList_ofList]
    exact Json.chars_printable _ spelled
  · rw [Value.render, String.toList_ofList]
    exact Value.ofBytes_of_spells (Json.chars_spells _ spelled).document
      (Nat.le_trans jsonMembers_depth (by decide))

-- ============================================================= ambiguity

/-- A text is one line that says one thing: it is a JSON object in which
no key occurs twice, and which has the level as a member. -/
def Unambiguous (text : String) (level : Level) : Prop :=
  ∃ line members, text = line ++ "\n" ∧ '\n' ∉ line.toList ∧
    Value.ofBytes (encode line.toList) = .ok (.object members) ∧
    (Value.object members).Distinct ∧ ("level", .string level.name) ∈ members

/-- The level is always shown. -/
theorem level_mem_jsonMembers :
    ("level", .string e.level.name) ∈ jsonMembers d now e := by
  simp [jsonMembers_eq]

/-- Keys decide whether a line is unambiguous: those of the line, and those
of the fields. -/
theorem unambiguous_iff (h : e.Spelled) (own : e.fieldNames.Nodup) :
    Unambiguous (jsonText d now e) e.level ↔
      ((jsonMembers d now e).map (·.1)).Nodup := by
  obtain ⟨line, text, printable, read⟩ := jsonText_reads d now h
  have inner : Json.MembersDistinct (jsonMembers d now e) := by
    refine Json.membersDistinct_iff.2
      (forall_mem_jsonMembers (fun _ => trivial)
      (fun _ _ => trivial) (fun f _ => f.2.toDocument_flat.2)
      ⟨?_, Json.membersDistinct_iff.2 ?_⟩)
    · rwa [e.keys_members]
    · exact List.forall_mem_cons.2 ⟨trivial, List.forall_mem_map.2 fun f _ =>
        f.2.toDocument_flat.2⟩
  constructor
  · rintro ⟨line', members, text', -, read', distinct, -⟩
    -- the text ends its line in one way only, and there is one way to read
    -- the line
    have same : line' = line := by
      have ends := congrArg String.toList (text'.symm.trans text)
      rw [String.toList_append, String.toList_append] at ends
      exact String.toList_inj.1 (List.append_cancel_right ends)
    rw [same, read] at read'
    cases read'
    exact distinct.1
  · exact fun keys => ⟨line, _, text, printable.noLine, read, ⟨keys, inner⟩,
      level_mem_jsonMembers⟩

/-- The keys of a line on which everything is shown, with some keys where
the event itself stands. -/
def keysAround (own : List String) : List String :=
  ["timestamp"] ++ ["level"] ++ own ++ ["target"] ++ ["filename",
    "line_number"]
    ++ ["threadName"] ++ ["threadId"]

theorem keys_shownMember (flag : Bool) (key text : String) :
    ((shownMember flag key text).map (·.1)).Sublist [key] := by
  cases flag <;> simp [shownMember]

theorem keys_placeMembers (flag : Bool) (p : Place) :
    ((placeMembers flag p).map (·.1)).Sublist ["filename", "line_number"] := by
  cases flag <;> simp [placeMembers]

/-- What is not shown is left out. -/
theorem keys_jsonMembers (d : Display) (now : Moment) (e : Event) :
    ((jsonMembers d now e).map (·.1)).Sublist
      (keysAround (if d.flatten then e.fieldNames else ["fields"])) := by
  have own :
      ((if d.flatten then e.members else [("fields", .object e.members)]).map
        (·.1)) = if d.flatten then e.fieldNames else ["fields"] := by
    split
    · exact e.keys_members
    · rfl
  rw [jsonMembers_eq, keysAround, ← own]
  simp only [List.map_append]
  exact ((((((keys_shownMember _ _ _).append (.refl _)).append
    (.refl _)).append
    (keys_shownMember _ _ _)).append (keys_placeMembers _ _)).append
    (keys_shownMember _ _ _)).append (keys_shownMember _ _ _)

/-- Fields that have an object of their own cannot be mistaken for other
members. -/
theorem nodup_of_nested (h : d.flatten = false) :
    ((jsonMembers d now e).map (·.1)).Nodup :=
  (keys_jsonMembers d now e).nodup (by rw [if_neg (by simp [h])]; decide)

/-- A field that is called like the level is mistaken for it. -/
theorem not_nodup_of_level (h : d.flatten = true)
    (field : "level" ∈ e.fieldNames) :
    ¬ ((jsonMembers d now e).map (·.1)).Nodup := by
  have keys :
      (["level"] ++ ["level"]).Sublist ((jsonMembers d now e).map (·.1)) := by
    -- the level of the line comes first, the field after it
    rw [jsonMembers_eq, if_pos h]
    simp only [List.map_append, e.keys_members, List.append_assoc]
    refine List.Sublist.trans ?_ (List.sublist_append_right _ _)
    exact (List.Sublist.refl ["level"]).append
      ((List.singleton_sublist.2 field).trans (List.sublist_append_left _ _))
  exact fun nodup => absurd (keys.nodup nodup) (by decide)

-- ================================================================= events

/-- All that is logged of steps is a fault, in words. -/
theorem fields_of_happenings {steps : List (Moment × Step)} {h : Happening}
    (hh : h ∈ happenings steps) :
    ∃ reason, h.2.fields = [("error", .text reason)] := by
  obtain ⟨⟨now, step⟩, -, hh⟩ := List.mem_flatMap.1 hh
  obtain ⟨e, he, rfl⟩ := List.mem_map.1 hh
  cases step with
  | validate limits pattern =>
      simp only [Step.events, Service.Verdict.ofPattern] at he
      split at he
      · cases he
      · cases List.mem_singleton.1 he
        exact ⟨_, rfl⟩
  | request bytes =>
      simp only [Step.events, Service.Request.ofBytes] at he
      split at he
      · cases he
      · cases List.mem_singleton.1 he
        exact ⟨_, rfl⟩

/-- A fault in words has no numbers. -/
theorem spelled_of_error {reason : String}
    (h : e.fields = [("error", .text reason)]) : e.Spelled := by
  intro f hf n hn
  rw [h, List.mem_singleton] at hf
  rw [hf] at hn
  cases hn

theorem spelled_installed (l : Logger) (terminal : Bool) :
    (l.installed terminal).Spelled := by
  intro f hf n hn
  simp only [Logger.installed, List.mem_cons, List.not_mem_nil, or_false] at hf
  rcases hf with rfl | rfl | rfl <;> cases hn

/-- A fault in words takes an unambiguous line. -/
theorem unambiguous_of_error {reason : String}
    (h : e.fields = [("error", .text reason)]) :
    Unambiguous (jsonText d now e) e.level := by
  have names : e.fieldNames = ["message", "error"] := by
    rw [Event.fieldNames, h]; rfl
  refine (unambiguous_iff (spelled_of_error h) (by rw [names]; decide)).2
    ((keys_jsonMembers d now e).nodup ?_)
  rw [names]
  cases d.flatten <;> decide

/-- The first event of a logger takes an unambiguous line only if its fields
have an object of their own. -/
theorem unambiguous_installed (l : Logger) (terminal : Bool) :
    Unambiguous (jsonText d now (l.installed terminal)) .debug ↔
      d.flatten = false := by
  have names :
      (l.installed terminal).fieldNames = ["message", "level", "format",
        "colors"] := rfl
  refine (unambiguous_iff (spelled_installed l terminal)
    (by rw [names]; decide)).trans ⟨fun nodup => ?_, nodup_of_nested⟩
  exact Bool.eq_false_iff.2 fun flat =>
    not_nodup_of_level flat (by simp [names]) nodup

-- =============================================================== the lines

/-- The configuration that is installed: where the environment is asked, it
has the last word. -/
def Config.under (c : Config) : Option Environment → Config
  | none => c
  | some env => c.override env

/-- A process that logs in JSON, with a filter that can be read, writes one
unambiguous line for each event that it admits, except that the first
event of the logger itself takes an ambiguous one where the fields are
members of the line. -/
theorem written_unambiguous_iff (base : Config) (env : Option Environment)
    (terminal : Stream → Bool) (start : Moment) (steps : List (Moment × Step))
    {f : Filter} (json : (base.under env).format = .json)
    (parses : Filter.ofText (base.under env).level = .ok f) :
    let c := base.under env
    let l : Logger := ⟨c, f⟩
    let installed := l.installed (terminal c.writer)
    let admitted := l.admitted ((start, installed) :: happenings steps)
    ∃ j, Journal.install { terminal } start c = .ok j ∧
      (j.after steps).written.reverse
        = admitted.map (l.line (terminal c.writer)) ∧
      ∀ h ∈ admitted, Unambiguous (l.line (terminal c.writer) h).2 h.2.level ↔
        ¬ (c.display.flatten = true ∧ h.2 = installed) := by
  intro c l installed admitted
  obtain ⟨j, install, written⟩ :=
    Journal.after_install_written parses terminal start steps
  refine ⟨j, install, written, fun h hh => ?_⟩
  have text :
      (l.line (terminal c.writer) h).2 = jsonText c.display h.1 h.2 := by
    have render :
        (l.line (terminal c.writer) h).2
          = c.render (terminal c.writer) h.1 h.2 := rfl
    rw [render, Config.render, json]
  rw [text]
  rcases List.mem_cons.1 (List.mem_filter.1 hh).1 with rfl | hh
  · refine (unambiguous_installed l (terminal c.writer)).trans ?_
    simp [installed]
  · obtain ⟨reason, fields⟩ := fields_of_happenings hh
    refine iff_of_true (unambiguous_of_error fields) fun ⟨_, same⟩ => ?_
    have count := congrArg (fun e => e.fields.length) same
    rw [fields] at count
    cases count

/-- The filter that admits everything but the least severe events. -/
def debugging : Filter := ⟨[{ threshold := some .debug }]⟩

theorem ofText_debug : Filter.ofText "debug" = .ok debugging := by
  decide +kernel

/-- Two lines about a parenthesis that is not closed, the fields in an
object of their own. -/
theorem written_unambiguous_nested :
    let c : Config :=
      { Config.standard .debug with
        level := "debug"
        format := .json
        display := { Display.standard .debug with flatten := false } }
    let now : Moment := ⟨"12:00", "main", 1, fun _ => default⟩
    Filter.ofText c.level = .ok debugging ∧
      ∃ j, Journal.install {} now c = .ok j ∧
        (j.after [(now, .validate {} "(")]).written.length = 2 ∧
        ∀ w ∈ (j.after [(now, .validate {} "(")]).written, ∃ level,
          Unambiguous w.2 level := by
  intro c now
  obtain ⟨j, install, written, lines⟩ :=
    written_unambiguous_iff c none (fun _ => false) now
      [(now, .validate {} "(")] rfl ofText_debug
  have two :
      (Logger.admitted ⟨c, debugging⟩
        ((now, Logger.installed ⟨c, debugging⟩ false) ::
        happenings [(now, .validate {} "(")])).length = 2 := by
    decide +kernel
  refine ⟨ofText_debug, j, install, ?_, fun w hw => ?_⟩
  · rw [← List.length_reverse, written, List.length_map]
    exact two
  · rw [← List.mem_reverse, written] at hw
    obtain ⟨h, hh, rfl⟩ := List.mem_map.1 hw
    exact ⟨_, (lines h hh).2 fun nested => absurd nested.1 (by decide)⟩

/-- The service, told by its environment to say more, begins with a line
that has two levels. -/
theorem installed_ambiguous_debugging :
    let c := (Config.production .debug).override [("REGVIZ_LOG", "debug")]
    let now : Moment := ⟨"12:00", "main", 1, fun _ => default⟩
    let text :=
      "\x7b\"timestamp\":\"12:00\",\"level\":\"DEBUG\","
        ++ "\"message\":\"logger installed\",\"level\":\"debug\","
        ++ "\"format\":\"Json\",\"colors\":false\x7d\n"
    ∃ j, Journal.install {} now c = .ok j ∧ j.written = [(.stdout, text)] ∧
      ¬ Unambiguous text .debug := by
  intro c now text
  have install := Journal.install_eq (c := c) (j := {}) ofText_debug rfl now
  refine ⟨_, install, ?_, ?_⟩
  · decide +kernel
  · have line :
        text = jsonText c.display now
        (Logger.installed ⟨c, debugging⟩ false) := by
      decide +kernel
    rw [line, unambiguous_installed]
    decide

end PatternCheck.Log
