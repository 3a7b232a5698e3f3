import PatternCheck.Proofs.Json.Naturals
import PatternCheck.Proofs.Json.Shaped
import PatternCheck.Proofs.Net.Addresses
import PatternCheck.Server.Config

/-
Configurations, limits and diagnostics as JSON text, and back. What is
written of one is a document that fits its shape, so the reader of that
shape gives the document back, and what the document describes is the
thing that was written. The only things that cannot be written are numbers
that are out of range.
-/

namespace PatternCheck

open Json (Value)
open Text.Utf8 (encode)

-- =============================================================== writing

/-- Whether the documents of some things fit a shape and describe them, for
the things that can be had. -/
structure Written {α : Type} (possible : α → Prop) (s : Shape)
    (toDocument : α → Value) (ofDocument : Value → α) : Prop where
  fits : ∀ a, possible a → s.Fits False (toDocument a)
  spelled : ∀ a, possible a → (toDocument a).Spelled
  describes : ∀ a, possible a → ofDocument (toDocument a) = a

/-- What is read from the text that is written is the thing itself. -/
theorem Written.read {α : Type} {possible : α → Prop} {s : Shape}
    {toDocument : α → Value} {ofDocument : Value → α}
    (h : Written possible s toDocument ofDocument) {a : α} (ha : possible a) :
    (s.ofBytes (encode (toDocument a).render.toList)).map ofDocument
      = .ok a := by
  rw [Value.render, String.toList_ofList,
    Shape.ofBytes_chars (h.fits a ha) (h.spelled a ha)]
  exact congrArg Except.ok (h.describes a ha)

section Members

variable {members : List (String × Value)}

/-- An object is spelled as its members are. -/
theorem spelled_object (h : ∀ m ∈ members, m.2.Spelled) :
    (Value.object members).Spelled :=
  Json.membersNumbers_spelled h

/-- Without numbers there is nothing to spell. -/
theorem spelled_plain {v : Value} (h : v.numbers = []) : v.Spelled := by
  rw [Value.Spelled, h]
  exact fun _ hn => absurd hn List.not_mem_nil

theorem spelled_natural {n : Nat} (hn : n < UInt64.size) :
    (Value.ofNat n).Spelled := by
  intro m hm
  rw [List.mem_singleton.1 hm]
  exact Json.natural_spelled hn

end Members

-- ================================================================= limits

namespace Pattern

/-- Limits that fit into their numbers. -/
def Limits.InRange (l : Limits) : Prop :=
  l.size < UInt64.size ∧ l.nesting < UInt32.size

/-- Limits are written with both members, each a number. -/
theorem Limits.written : Written InRange shape toDocument ofDocument where
  fits l hl := by
    refine .whole [("size_limit", .size, .ofNat l.size),
      ("nest_limit", .count, .ofNat l.nesting)]
      (by simp) ?_
    simpa using ⟨.natural hl.1, .natural hl.2⟩
  spelled l hl := by
    refine spelled_object ?_
    simpa using ⟨spelled_natural hl.1,
      spelled_natural (Nat.lt_trans hl.2 (by decide))⟩
  describes l _ := by
    simp [ofDocument, toDocument, Value.naturalOr, Value.get?, Value.lookup,
      Value.ofNat]

/-- A place that fits into its number. -/
def Diagnostic.InRange (d : Diagnostic) : Prop :=
  ∀ p ∈ d.position, p < UInt64.size

/-- A report may be without a place, which is then written as null. -/
theorem Diagnostic.written : Written InRange shape toDocument ofDocument where
  fits d hd := by
    have hposition :
        (Shape.optional .size).Fits False (.ofOption .ofNat d.position) := by
      cases hp : d.position with
      | none => exact .absent
      | some p => exact .present (.natural (hd p hp))
    refine .whole [("message", .text, .string d.message),
      ("position", .optional .size, .ofOption .ofNat d.position)] (by simp) ?_
    simpa using ⟨.text d.message, hposition⟩
  spelled d hd := by
    have hposition : (Value.ofOption Value.ofNat d.position).Spelled := by
      cases hp : d.position with
      | none => exact spelled_plain rfl
      | some p => exact spelled_natural (hd p hp)
    refine spelled_object ?_
    simpa using ⟨spelled_plain rfl, hposition⟩
  describes d _ := by
    obtain ⟨message, position⟩ := d
    cases position <;>
      simp [ofDocument, toDocument, Value.textOr, Value.get?, Value.lookup,
        Value.ofOption, Value.ofNat, Value.natural?]

end Pattern

-- ================================================================ logger

namespace Log

/-- Each format has a name of its own. -/
theorem Format.ofName?_name (f : Format) : ofName? f.name = some f := by
  cases f <;> decide

/-- Each stream has a name of its own. -/
theorem Stream.ofName?_name (s : Stream) : ofName? s.name = some s := by
  cases s <;> decide

theorem Format.mem_all (f : Format) : f ∈ all := by
  cases f <;> decide

theorem Stream.mem_all (s : Stream) : s ∈ all := by
  cases s <;> decide

/-- What lines show is written in full, whatever the build has by default. -/
theorem Display.written (build : Build) :
    Written (fun _ => True) shape toDocument (ofDocument build) where
  fits d _ := by
    have hcolors :
        (Shape.optional .boolean).Fits False (.ofOption .bool d.colors) := by
      cases d.colors with
      | none => exact .absent
      | some b => exact .present (.boolean b)
    refine .whole [("time", .boolean, .bool d.time),
      ("source", .boolean, .bool d.source),
      ("target", .boolean, .bool d.target),
      ("thread_ids", .boolean, .bool d.threadIds),
      ("thread_names", .boolean, .bool d.threadNames),
      ("colors", .optional .boolean, .ofOption .bool d.colors),
      ("span_list", .boolean, .bool d.spanList),
      ("flatten", .boolean, .bool d.flatten)]
      (by simp) ?_
    simpa using ⟨.boolean _, .boolean _, .boolean _, .boolean _, .boolean _,
      hcolors, .boolean _, .boolean _⟩
  spelled d _ := by
    have hcolors : (Value.ofOption Value.bool d.colors).Spelled := by
      cases d.colors <;> exact spelled_plain rfl
    refine spelled_object ?_
    simpa using ⟨spelled_plain rfl, spelled_plain rfl, spelled_plain rfl,
      spelled_plain rfl, spelled_plain rfl, hcolors, spelled_plain rfl,
      spelled_plain rfl⟩
  describes d _ := by
    obtain ⟨time, source, target, threadIds, threadNames, colors, spanList,
      flatten⟩ := d
    cases colors <;>
      simp [ofDocument, toDocument, Value.boolOr, Value.get?, Value.lookup,
        Value.ofOption, Value.bool?]

/-- So is a logger, with what its lines show in it. -/
theorem Config.written (build : Build) :
    Written (fun _ => True) shape toDocument (ofDocument build) where
  fits c _ := by
    refine .whole [("level", .text, .string c.level),
      ("format", .choice "Format" (Format.all.map Format.name),
        .string c.format.name),
      ("writer", .choice "WriterConfig" (Stream.all.map Stream.name),
        .string c.writer.name),
      ("display", Display.shape, c.display.toDocument)] (by simp) ?_
    simpa using ⟨.text _, .choice (List.mem_map_of_mem c.format.mem_all),
      .choice (List.mem_map_of_mem c.writer.mem_all),
      (Display.written build).fits _ trivial⟩
  spelled c _ := by
    refine spelled_object ?_
    simpa using ⟨spelled_plain rfl, spelled_plain rfl, spelled_plain rfl,
      (Display.written build).spelled c.display trivial⟩
  describes c _ := by
    have hdisplay := (Display.written build).describes c.display trivial
    simp [ofDocument, toDocument, Value.textOr, Value.get?, Value.lookup,
      Value.text?, Format.ofName?_name, Stream.ofName?_name, hdisplay]

end Log

-- ========================================================= configurations

namespace Server

/-- A configuration whose address is one and whose numbers fit. -/
structure Config.InRange (c : Config) : Prop where
  bind : c.bind.Valid
  maxBodyBytes : c.maxBodyBytes < UInt64.size
  limits : c.limits.InRange

/-- So is a whole configuration, with its address as a text. -/
theorem Config.written (build : Build) :
    Written InRange shape toDocument (ofDocument build) where
  fits c hc := by
    have hbind : Shape.address.Fits False (.string c.bind.render) :=
      .address (by rw [Net.Address.ofText?_render hc.bind]; rfl)
    have hstatic :
        (Shape.optional .path).Fits False (.ofOption .string c.staticDir) := by
      cases c.staticDir with
      | none => exact .absent
      | some path => exact .present (.path path)
    refine .whole [("bind", .address, .string c.bind.render),
      ("static_dir", .optional .path, .ofOption .string c.staticDir),
      ("max_body_bytes", .size, .ofNat c.maxBodyBytes),
      ("cors", .boolean, .bool c.cors),
      ("limits", Pattern.Limits.shape, c.limits.toDocument),
      ("log", Log.Config.shape, c.log.toDocument)] (by simp) ?_
    simpa using ⟨hbind, hstatic, .natural hc.maxBodyBytes, .boolean _,
      Pattern.Limits.written.fits _ hc.limits,
      (Log.Config.written build).fits _ trivial⟩
  spelled c hc := by
    have hstatic : (Value.ofOption Value.string c.staticDir).Spelled := by
      cases c.staticDir <;> exact spelled_plain rfl
    refine spelled_object ?_
    simpa using ⟨spelled_plain rfl, hstatic, spelled_natural hc.maxBodyBytes,
      spelled_plain rfl, Pattern.Limits.written.spelled _ hc.limits,
      (Log.Config.written build).spelled c.log trivial⟩
  describes c hc := by
    have hbind := Net.Address.ofText?_render hc.bind
    have hlimits := Pattern.Limits.written.describes c.limits hc.limits
    have hlog := (Log.Config.written build).describes c.log trivial
    obtain ⟨bind, staticDir, maxBodyBytes, cors, limits, log⟩ := c
    cases staticDir <;>
      simp [ofDocument, toDocument, Value.naturalOr, Value.boolOr, Value.get?,
        Value.lookup, Value.ofOption, Value.ofNat, Value.text?, hbind,
        hlimits, hlog]

/-- A configuration is read back from the text that is written of it, and
so are limits, logger configurations and diagnostics. -/
theorem written_read (build : Build) :
    (∀ c : Config, c.InRange →
      (Config.shape.ofBytes (encode c.toDocument.render.toList)).map
        (Config.ofDocument build) = .ok c)
    ∧ (∀ l : Pattern.Limits, l.InRange →
      (Pattern.Limits.shape.ofBytes (encode l.toDocument.render.toList)).map
        Pattern.Limits.ofDocument = .ok l)
    ∧ (∀ c : Log.Config,
      (Log.Config.shape.ofBytes (encode c.toDocument.render.toList)).map
        (Log.Config.ofDocument build) = .ok c)
    ∧ (∀ d : Pattern.Diagnostic, d.InRange →
      (Pattern.Diagnostic.shape.ofBytes
          (encode d.toDocument.render.toList)).map
        Pattern.Diagnostic.ofDocument = .ok d) :=
  ⟨fun _ => (Config.written build).read, fun _ => Pattern.Limits.written.read,
    fun _ => (Log.Config.written build).read trivial,
    fun _ => Pattern.Diagnostic.written.read⟩

/-- An address of an interface, with zeros left out; a filter with a
quotation mark and a line break; and the largest numbers. -/
theorem written_read_scoped :
    let c : Config :=
      { bind := ⟨.v6 [0xFE80, 0, 0, 0, 1, 0, 0, 2] 7, 65535⟩
        staticDir := some "/srv/assets \"new\""
        maxBodyBytes := UInt64.size - 1
        cors := false
        limits := ⟨UInt64.size - 1, UInt32.size - 1⟩
        log := { Log.Config.auto .debug with level := "info\n,a=\"b\"" } }
    (Config.shape.ofBytes (encode c.toDocument.render.toList)).map
        (Config.ofDocument .debug) = .ok c
    ∧ c.bind.render = "[fe80::1:0:0:2%7]:65535" := by
  intro c
  have hc : c.InRange := by
    refine ⟨⟨by decide, by decide, by decide, by decide⟩, by decide, by
      decide, by decide⟩
  exact ⟨(written_read .debug).1 c hc, by decide +kernel⟩

end Server

end PatternCheck
