import PatternCheck.Log.Logger
import PatternCheck.Service.Request

/-
What a process has written, as a whole. A logger never changes once it is
installed, so what is written is what it makes of the events that it
admits, one after the other (`Journal.record_written`), its own first
event at the head of them all (`Journal.after_install_written`).
-/

namespace PatternCheck.Log

/-- An event, and when it happens. -/
abbrev Happening := Moment × Event

-- ============================================================== loggers

namespace Logger

/-- What a logger writes about an event, on a stream that is a terminal or
not. -/
def line (l : Logger) (terminal : Bool) (h : Happening) : Stream × String :=
  (l.config.writer, l.config.render terminal h.1 h.2)

/-- The events that a logger writes about. -/
def admitted (l : Logger) (hs : List Happening) : List Happening :=
  hs.filter fun h => l.filter.admits h.2

/-- A logger is made where its filter can be read. -/
theorem ofConfig_of_ok {c : Config} {f : Filter}
    (h : Filter.ofText c.level = .ok f) : ofConfig c = .ok ⟨c, f⟩ := by
  rw [ofConfig, h]

end Logger

-- ============================================================== journals

namespace Journal

variable {j : Journal} {l : Logger}

/-- Logs events, each at its own moment. -/
def record (j : Journal) (hs : List Happening) : Journal :=
  hs.foldl (fun j h => j.log h.1 h.2) j

theorem logAll_eq_record (j : Journal) (now : Moment) (es : List Event) :
    j.logAll now es = j.record (es.map (now, ·)) := by
  rw [logAll, record, List.foldl_map]

/-- What happens is recorded in order. -/
theorem record_append (j : Journal) (hs hs' : List Happening) :
    j.record (hs ++ hs') = (j.record hs).record hs' := by
  rw [record, List.foldl_append]
  rfl

theorem log_logger (j : Journal) (now : Moment) (e : Event) :
    (j.log now e).logger = j.logger := by
  unfold log
  split
  · rfl
  · split <;> rfl

theorem log_terminal (j : Journal) (now : Moment) (e : Event) :
    (j.log now e).terminal = j.terminal := by
  unfold log
  split
  · rfl
  · split <;> rfl

/-- One event is written if it is admitted. -/
theorem log_written (hj : j.logger = some l) (h : Happening) :
    (j.log h.1 h.2).written.reverse =
      j.written.reverse ++ (l.admitted [h]).map
        (l.line (j.terminal l.config.writer)) := by
  rw [log, hj, Logger.admitted]
  by_cases ha : l.filter.admits h.2 = true <;> simp [ha, Logger.line]

/-- Events are written one after the other, after what has been written
before. -/
theorem record_written (hs : List Happening) :
    ∀ {j : Journal}, j.logger = some l →
    (j.record hs).written.reverse = j.written.reverse
      ++ (l.admitted hs).map (l.line (j.terminal l.config.writer)) := by
  induction hs with
  | nil => intro j _; simp [record, Logger.admitted]
  | cons h hs ih =>
      intro j hj
      have step : j.record (h :: hs) = (j.log h.1 h.2).record hs := rfl
      have first : l.admitted (h :: hs) = l.admitted [h] ++ l.admitted hs :=
        List.filter_append [h] hs
      -- logger and terminal are still the same: one logger writes the rest
      rw [step, ih ((log_logger j h.1 h.2).trans hj), log_terminal,
        log_written hj, first, List.map_append, List.append_assoc]

/-- A filter that can be read is installed where there is no logger. -/
theorem install_eq {c : Config} {f : Filter}
    (hf : Filter.ofText c.level = .ok f) (hj : j.logger = none)
    (now : Moment) :
    j.install now c = .ok (Journal.log { j with logger := some ⟨c, f⟩ } now
        (Logger.installed ⟨c, f⟩ (j.terminal c.writer))) := by
  rw [install, Logger.ofConfig_of_ok hf]
  simp only [hj]

/-- The filter of what is installed can be read. -/
theorem readable_of_install {c : Config} {now : Moment} {j' : Journal}
    (h : j.install now c = .ok j') : ∃ f, Filter.ofText c.level = .ok f := by
  cases hf : Filter.ofText c.level with
  | ok f => exact ⟨f, rfl⟩
  | error e =>
    rw [install, Logger.ofConfig, hf] at h
    cases h

end Journal

-- ================================================================= runs

/-- Something that a process does, and that may be logged. -/
inductive Step where
  | validate (limits : Pattern.Limits) (pattern : String)
  | request (bytes : List UInt8)

/-- What is logged of a step. -/
def Step.events : Step → List Event
  | validate limits pattern => (Service.Verdict.ofPattern limits pattern).2
  | request bytes => (Service.Request.ofBytes bytes).2

/-- What happens in steps that are made at some moments. -/
def happenings (steps : List (Moment × Step)) : List Happening :=
  steps.flatMap fun s => s.2.events.map (s.1, ·)

namespace Journal

/-- The journal after some steps. -/
def after (j : Journal) (steps : List (Moment × Step)) : Journal :=
  steps.foldl (fun j s => j.logAll s.1 s.2.events) j

/-- Steps leave behind what is recorded of their happenings. -/
theorem after_eq_record (steps : List (Moment × Step)) :
    ∀ j : Journal, j.after steps = j.record (happenings steps) := by
  induction steps with
  | nil => exact fun _ => rfl
  | cons s steps ih =>
      intro j
      have rest :
          j.after (s :: steps) = (j.logAll s.1 s.2.events).after steps := rfl
      rw [rest, ih, logAll_eq_record, ← record_append]
      rfl

/-- A process that installs a logger and then makes some steps writes what
the logger makes of its own first event and of those of the steps. -/
theorem after_install_written {c : Config} {f : Filter}
    (hf : Filter.ofText c.level = .ok f) (terminal : Stream → Bool)
    (start : Moment) (steps : List (Moment × Step)) :
    ∃ j, Journal.install { terminal } start c = .ok j ∧
      (j.after steps).written.reverse =
        (Logger.admitted ⟨c, f⟩
          ((start, Logger.installed ⟨c, f⟩ (terminal c.writer))
            :: happenings steps)).map
          (Logger.line ⟨c, f⟩ (terminal c.writer)) := by
  refine ⟨_, install_eq hf rfl start, ?_⟩
  have whole := record_written (l := ⟨c, f⟩)
    ((start, Logger.installed ⟨c, f⟩ (terminal c.writer)) :: happenings steps)
    (j := { terminal, logger := some ⟨c, f⟩ }) rfl
  rw [after_eq_record]
  exact whole.trans (List.nil_append _)

end Journal

end PatternCheck.Log
