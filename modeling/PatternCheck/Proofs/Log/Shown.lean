import PatternCheck.Proofs.Json.Causes
import PatternCheck.Proofs.Log.Deciding
import PatternCheck.Proofs.Log.JsonLines
import PatternCheck.Proofs.Pattern.Rejection

/-
What a log shows. A process whose filter is written as rules writes one
line for each event that the rules log, in the order in which they happen,
and writes nothing else and nowhere else (`writes_logged`). A line stays one
line because no event has a line feed in it: what is logged of a document
or of a pattern is said in words of the program, and never quotes them
(`Step.events_plain`).
-/

namespace PatternCheck.Log

open Text (OneLine IsLine oneLine_ofList oneLine_join oneLine_toString
  oneLine_ite)

variable {d : Display} {now : Moment} {e : Event}

-- ============================================================= plain events

/-- The reading of the clock and the name of the thread take one line. -/
structure Moment.Plain (now : Moment) : Prop where
  time : OneLine now.time
  threadName : OneLine now.threadName

/-- Nothing in an event takes more than one line. -/
structure Event.Plain (e : Event) : Prop where
  target : OneLine e.target
  message : OneLine e.message
  names : ∀ f ∈ e.fields, OneLine f.1
  values : ∀ f ∈ e.fields, OneLine f.2.inLine

/-- A fault in words, logged by some part of the program. -/
theorem Event.Plain.of_error {reason : String} (target : OneLine e.target)
    (message : OneLine e.message)
    (fields : e.fields = [("error", .text reason)]) (h : OneLine reason) :
    e.Plain where
  target := target
  message := message
  names := by
    rw [fields, List.forall_mem_singleton]
    exact oneLine_ofList (by decide)
  values := by
    rw [fields, List.forall_mem_singleton]
    exact h

/-- What is logged of a step quotes neither the pattern nor the document. -/
theorem Step.events_plain (s : Step) : ∀ e ∈ s.events, e.Plain := by
  intro e he
  cases s with
  | validate limits pattern =>
      simp only [Step.events, Service.Verdict.ofPattern] at he
      split at he
      · cases he
      · next r hr =>
        cases List.mem_singleton.1 he
        exact .of_error (oneLine_ofList (by decide))
          (oneLine_ofList (by decide)) rfl
          (Pattern.display_oneLine_of_check hr)
  | request bytes =>
      simp only [Step.events, Service.Request.ofBytes] at he
      split at he
      · cases he
      · next p hp =>
        cases List.mem_singleton.1 he
        exact .of_error (oneLine_ofList (by decide))
          (oneLine_ofList (by decide)) rfl
          (Json.Problem.message_oneLine (Json.ofBytes_formal bytes p hp) bytes)

/-- What happens in steps happens at their moments, and is logged of them. -/
theorem mem_happenings {steps : List (Moment × Step)} {h : Happening}
    (hh : h ∈ happenings steps) :
    ∃ s ∈ steps, h.1 = s.1 ∧ h.2 ∈ s.2.events := by
  obtain ⟨s, hs, hh⟩ := List.mem_flatMap.1 hh
  obtain ⟨e, he, rfl⟩ := List.mem_map.1 hh
  exact ⟨s, hs, rfl, he⟩

/-- What a logger says of itself when it is installed. -/
def Config.announcement (c : Config) (terminal : Bool) : Event :=
  { level := .debug
    target := "regviz_log::builder"
    message := "logger installed"
    fields :=
      [("level", .text c.level), ("format", .text c.format.title),
        ("colors", .flag (c.display.colorsFor terminal))] }

theorem Logger.installed_eq (l : Logger) (terminal : Bool) :
    l.installed terminal = l.config.announcement terminal := rfl

/-- The text of the filter is the only text in it that is not fixed. -/
theorem Config.announcement_plain {c : Config} (h : OneLine c.level)
    (terminal : Bool) : (c.announcement terminal).Plain where
  target := oneLine_ofList (by decide)
  message := oneLine_ofList (by decide)
  names := by
    simp only [announcement, List.forall_mem_cons]
    exact ⟨oneLine_ofList (by decide), oneLine_ofList (by decide),
      oneLine_ofList (by decide), List.forall_mem_nil _⟩
  values := by
    have format : OneLine c.format.title := by
      cases c.format <;> exact oneLine_ofList (by decide)
    have colors :
        OneLine (FieldValue.flag (c.display.colorsFor terminal)).inLine := by
      cases c.display.colorsFor terminal <;> exact oneLine_ofList (by decide)
    simp only [announcement, List.forall_mem_cons]
    exact ⟨h, format, colors, List.forall_mem_nil _⟩

-- ================================================================== lines

/-- A text with attributes takes one line. -/
theorem paint_oneLine {codes text : String} (hcodes : OneLine codes)
    (h : OneLine text) (colors : Bool) :
    OneLine (paint colors codes text) := by
  have begins : OneLine (attributes codes) :=
    ((oneLine_ofList (by decide)).append hcodes).append
      (oneLine_ofList (by decide))
  have ends : OneLine plain := by
    unfold plain attributes
    exact ((oneLine_ofList (by decide)).append
      (oneLine_ofList (by decide))).append (oneLine_ofList (by decide))
  exact oneLine_ite ((begins.append h).append ends) h

theorem levelText_oneLine (colors : Bool) (l : Level) :
    OneLine (levelText colors l) := by
  have padded : OneLine l.padded := by
    cases l <;> exact (oneLine_ofList (by decide)).append
      (oneLine_ofList (by decide))
  have color : OneLine l.color := by
    cases l <;> exact oneLine_ofList (by decide)
  exact (paint_oneLine color padded colors).append (oneLine_ofList (by decide))

/-- The number of a thread takes one line. -/
theorem twoDigits_oneLine (n : Nat) : OneLine (twoDigits n) :=
  oneLine_ite ((oneLine_ofList (by decide)).append (oneLine_toString n))
    (oneLine_toString n)

theorem aboutText_oneLine {text : String} (h : OneLine text) (colors : Bool) :
    OneLine (aboutText colors text) := by
  have faint : OneLine "2" := oneLine_ofList (by decide)
  exact (paint_oneLine faint h colors).append
    (paint_oneLine faint (oneLine_ofList (by decide)) colors)

/-- A target and a place in the sources take one line. -/
theorem originText_oneLine {target : String} (h : OneLine target) (d : Display)
    (colors : Bool) (p : Place) : OneLine (originText d colors target p) := by
  have nothing : OneLine "" := oneLine_ofList (by decide)
  have space : OneLine " " := oneLine_ofList (by decide)
  have place :
      OneLine (aboutText colors p.file
        ++ aboutText colors (toString p.line.toNat)) :=
    (aboutText_oneLine p.oneLine colors).append
      (aboutText_oneLine (oneLine_toString _) colors)
  exact (((oneLine_ite (aboutText_oneLine h colors) nothing).append
    (oneLine_ite space nothing)).append (oneLine_ite place nothing)).append
    (oneLine_ite space nothing)

/-- For people, a plain event takes one line. -/
theorem compactText_isLine (hnow : now.Plain) (he : e.Plain) (d : Display)
    (colors : Bool) : IsLine (compactText d colors now e) := by
  have nothing : OneLine "" := oneLine_ofList (by decide)
  have space : OneLine " " := oneLine_ofList (by decide)
  have faint : OneLine "2" := oneLine_ofList (by decide)
  have slanted : OneLine "3" := oneLine_ofList (by decide)
  have time : OneLine (timeText d colors now) :=
    oneLine_ite ((paint_oneLine faint hnow.time colors).append space) nothing
  have thread : OneLine ((if d.threadNames then now.threadName ++ " " else "")
      ++ (if d.threadIds then
        s!"ThreadId({twoDigits now.threadId}) " else "")) := by
    refine (oneLine_ite (hnow.threadName.append space) nothing).append
      (oneLine_ite ?_ nothing)
    exact ((oneLine_ofList (by decide)).append
      (twoDigits_oneLine now.threadId)).append (oneLine_ofList (by decide))
  have origin := originText_oneLine he.target d colors (now.place e)
  have fields : ∀ s ∈ e.fields.map fun f =>
      " " ++ paint colors "3" f.1 ++ paint colors "2" "=" ++ f.2.inLine,
        OneLine s := by
    rw [List.forall_mem_map]
    intro f hf
    refine ((space.append ?_).append ?_).append (he.values f hf)
    · exact paint_oneLine slanted (he.names f hf) colors
    · exact paint_oneLine faint (oneLine_ofList (by decide)) colors
  refine ⟨_, rfl, ?_⟩
  exact ((((time.append (levelText_oneLine colors e.level)).append
    thread).append origin).append he.message).append (oneLine_join fields)

/-- On one line or as an object, a plain event takes one line. As an object
it does so whatever the clock and the thread are called. -/
theorem render_isLine {c : Config} (hformat : c.format ≠ .pretty)
    (hnow : c.format = .compact → now.Plain) (he : e.Plain)
    (spelled : e.Spelled) (terminal : Bool) :
    IsLine (c.render terminal now e) := by
  unfold Config.render
  cases hc : c.format with
  | pretty => exact absurd hc hformat
  | compact =>
      exact compactText_isLine (hnow hc) he c.display
        (c.display.colorsFor terminal)
  | json =>
      obtain ⟨line, text, printable, -⟩ := jsonText_reads c.display now spelled
      exact ⟨line, text, printable.noLine⟩

-- ================================================================ streams

/-- A logger writes to its own stream only. -/
theorem output_of_written {j : Journal} {l : Logger} {terminal : Bool}
    {hs : List Happening} (h : j.written.reverse = hs.map (l.line terminal))
    (s : Stream) :
    j.output s
      = if s = l.config.writer then
          String.join (hs.map fun h => l.config.render terminal h.1 h.2)
        else "" := by
  unfold Journal.output
  rw [h]
  split
  · next own =>
    rw [List.filter_eq_self.2, List.map_map]
    · rfl
    · rw [List.forall_mem_map]
      intro h _
      exact beq_iff_eq.2 own.symm
  · next other =>
    rw [List.filter_eq_nil_iff.2]
    · rfl
    · rw [List.forall_mem_map]
      intro h _ own
      exact other (beq_iff_eq.1 own).symm

/-- The texts that are written of events: one for each event that the rules
log. -/
def Config.texts (c : Config) (terminal : Bool) (rules : List Rule)
    (hs : List Happening) : List String :=
  (hs.filter fun h => decide (Logged rules h.2)).map fun h =>
    c.render terminal h.1 h.2

/-- A process installs a logger and makes some steps, and what it writes on
the way is some texts, each of which is a line, on the stream of the
logger. -/
def Writes (terminal : Stream → Bool) (start : Moment) (c : Config)
    (steps : List (Moment × Step)) (texts : List String) : Prop :=
  ∃ j, Journal.install { terminal } start c = .ok j ∧
    (j.after steps).output c.writer = String.join texts ∧
      (∀ t ∈ texts, IsLine t) ∧
    ∀ s, s ≠ c.writer → (j.after steps).output s = ""

/-- Whatever happens from the installation of a logger on takes one line. -/
theorem isLine_of_happening {c : Config} (hlevel : OneLine c.level)
    (hformat : c.format ≠ .pretty) {start : Moment}
    {steps : List (Moment × Step)} {terminal : Bool}
    (hplain : c.format = .compact →
      ∀ now ∈ start :: steps.map (·.1), now.Plain) {h : Happening} (hh :
    h ∈ (start, c.announcement terminal) :: happenings steps) :
    IsLine (c.render terminal h.1 h.2) := by
  rcases List.mem_cons.1 hh with rfl | hh
  · exact render_isLine hformat (fun compact =>
      hplain compact _ List.mem_cons_self)
      (c.announcement_plain hlevel terminal)
        (spelled_installed ⟨c, ⟨[]⟩⟩ terminal) terminal
  · obtain ⟨reason, fields⟩ := fields_of_happenings hh
    obtain ⟨s, hs, moment, he⟩ := mem_happenings hh
    have now : h.1 ∈ start :: steps.map (·.1) := by
      rw [moment]
      exact List.mem_cons_of_mem _ (List.mem_map_of_mem hs)
    exact render_isLine hformat (fun compact => hplain compact _ now)
      (s.2.events_plain _ he) (spelled_of_error fields) terminal

/-- The rules of the filter say which events are written. -/
theorem writes_texts {c : Config} {rules : List Rule} (hne : rules ≠ [])
    (hlevel : c.level = filterText rules) (hformat : c.format ≠ .pretty)
    (terminal : Stream → Bool) (start : Moment) (steps : List (Moment × Step))
    (hplain : c.format = .compact →
      ∀ now ∈ start :: steps.map (·.1), now.Plain) :
    Writes terminal start c steps (c.texts (terminal c.writer) rules
      ((start, c.announcement (terminal c.writer)) :: happenings steps)) := by
  have read : Filter.ofText c.level = .ok ⟨rules.map Rule.directive⟩ := by
    rw [hlevel, ofText_filterText hne]
  obtain ⟨j, install, written⟩ :=
    Journal.after_install_written read terminal start steps
  rw [Logger.installed_eq] at written
  have output := output_of_written written
  have admitted (hs : List Happening) :
      Logger.admitted ⟨c, ⟨rules.map Rule.directive⟩⟩ hs =
        hs.filter fun h => decide (Logged rules h.2) := by
    refine List.filter_congr fun h _ => ?_
    rw [Bool.eq_iff_iff, decide_eq_true_eq]
    exact admits_iff_logged rules h.2
  rw [admitted] at output
  refine ⟨j, install, ?_, ?_, ?_⟩
  · rw [output]
    exact if_pos rfl
  · unfold Config.texts
    rw [List.forall_mem_map]
    intro h hh
    have oneLine : OneLine c.level := hlevel ▸ filterText_oneLine rules
    exact isLine_of_happening oneLine hformat hplain
      (List.mem_of_mem_filter hh)
  · intro s hs
    rw [output]
    exact if_neg hs

/-- In one line for each event, in order, and on its own stream only, a logger
writes the events that the rules of its filter log, of which the first is
its own. With the rules in another order, but those for the same target
in the same order, it writes the same, except for the text of the filter
in its own event. -/
theorem writes_logged (c : Config) (rules : List Rule) (hne : rules ≠ [])
    (hformat : c.format ≠ .pretty) (terminal : Stream → Bool) (start : Moment)
    (steps : List (Moment × Step))
    (hplain : c.format = .compact →
      ∀ now ∈ start :: steps.map (·.1), now.Plain) :
    let written (level : String) : List String :=
      c.texts (terminal c.writer) rules
      ((start, Config.announcement { c with level } (terminal c.writer))
        :: happenings steps)
    Writes terminal start { c with level := filterText rules } steps
        (written (filterText rules)) ∧
      ∀ rules', Reordered rules rules' →
        Writes terminal start { c with level := filterText rules' } steps
          (written (filterText rules')) := by
  intro written
  refine ⟨writes_texts (c := { c with level := filterText rules }) hne rfl
      hformat terminal start
    steps hplain, fun rules' h => ?_⟩
  have hne' : rules' ≠ [] := by
    obtain ⟨r, rest, rfl⟩ := List.exists_cons_of_ne_nil hne
    exact List.ne_nil_of_mem (h.mem List.mem_cons_self)
  have writes :=
    writes_texts (c := { c with level := filterText rules' }) hne' rfl hformat
      terminal start steps hplain
  have same : (fun h : Happening => decide (Logged rules' h.2)) =
      fun h => decide (Logged rules h.2) := by
    funext h'
    exact decide_eq_decide.2 (Logged.reordered h).symm
  unfold Config.texts at writes
  rw [same] at writes
  exact writes

/-- A rule for the core of the program. -/
def core (t : Threshold) : Rule where
  target := "regviz_core".toList
  threshold := t
  plain := List.all_eq_true.1 (by decide +kernel)

/-- A rule for all targets. -/
def everywhere (t : Threshold) : Rule := ⟨[], t, List.forall_mem_nil _⟩

/-- The last of two rules for a target counts, wherever the rule for all
targets stands: a rejection is written, and the event of the logger
itself is not. -/
theorem writes_logged_overridden :
    let rules :=
      [everywhere (some .info), core (some .warn), core (some .debug)]
    let rules' :=
      [core (some .warn), everywhere (some .info), core (some .debug)]
    let c : Config :=
      { Config.standard .debug with level :=
          "info,regviz_core=warn,regviz_core=debug" }
    let c' : Config :=
      { Config.standard .debug with level :=
          "regviz_core=warn,info,regviz_core=debug" }
    let now : Moment :=
      ⟨"12:00", "main", 1, fun _ => ⟨"checker", 7, by decide⟩⟩
    let text :=
      "12:00 DEBUG regviz_core::validator: checker:7: pattern rejected " ++
      "error=unclosed group at position 0\n"
    c.level = filterText rules ∧ c'.level = filterText rules' ∧ now.Plain ∧
      Writes (fun _ => false) now c [(now, .validate {} "(")] [text] ∧
      Writes (fun _ => false) now c' [(now, .validate {} "(")] [text] := by
  intro rules rules' c c' now text
  have level : c.level = filterText rules := by decide +kernel
  have level' : c'.level = filterText rules' := by decide +kernel
  have plain : now.Plain :=
    ⟨oneLine_ofList (by decide), oneLine_ofList (by decide)⟩
  have order : Reordered rules rules' :=
    Reordered.swap [] [core (some .debug)] (by decide +kernel)
  obtain ⟨writes, others⟩ :=
    writes_logged c rules (List.cons_ne_nil _ _) (by decide)
      (fun _ => false) now [(now, .validate {} "(")] (fun _ => by simp [plain])
  have writes' := others rules' order
  rw [← level] at writes
  rw [← level'] at writes'
  have one : c.texts false rules ((now, c.announcement false) :: happenings
      [(now, .validate {} "(")]) = [text] := by
    decide +kernel
  have one' : c'.texts false rules ((now, c'.announcement false) :: happenings
      [(now, .validate {} "(")]) = [text] := by
    decide +kernel
  refine ⟨level, level', plain, ?_, ?_⟩
  · rw [← one]
    exact writes
  · rw [← one']
    exact writes'

end PatternCheck.Log
