import PatternCheck.Proofs.Log.Shown

/-
Installing loggers over and over. An installation is taken apart here into
its parts, done one after the other (`Journal.build`): read the filter,
become the logger of the process, log a first event. What a part has done
stays done if a later part is refused, so it is something to prove that a
refused installation has done nothing, and that an installation is what
its parts make it (`Journal.build_eq_install`).

A process goes through two phases. Up to the first configuration whose
filter can be read nothing happens to its journal
(`Journal.performAll_waiting`); from then on all that happens is that steps
are logged, by this one logger (`Journal.performAll_installed`). What every
single call is told, and what has been written in the end, follows
(`Journal.installed_once`).
-/

namespace PatternCheck.Log

namespace Journal

-- ========================================================== installations

/-- Makes a logger the one of the process, which must have none. -/
def enlist (l : Logger) : ExceptT Refusal (StateM Journal) Unit := do
  if (← get).logger.isSome then throw .alreadyInstalled
  modify fun j => { j with logger := some l }

/-- Installs a logger, part by part. -/
def build (now : Moment) (c : Config) :
    ExceptT Refusal (StateM Journal) Unit := do
  let l ← MonadExcept.ofExcept (Logger.ofConfig c)
  enlist l
  modify fun j => j.log now (l.installed (j.terminal c.writer))

/-- What a process is told that installs a logger. -/
def reply (j : Journal) (now : Moment) (c : Config) : Except Refusal Unit :=
  ((build now c).run j).1

/-- The journal when a logger has been installed, or has been refused. -/
def built (j : Journal) (now : Moment) (c : Config) : Journal :=
  ((build now c).run j).2

variable {j : Journal} {l : Logger} {now : Moment} {c : Config} {f : Filter}

/-- A filter that cannot be read is found before anything is done. -/
theorem build_unread {e : FilterFault} (h : Filter.ofText c.level = .error e)
    (j : Journal) :
    (build now c).run j = (.error (.filter c.level e.message), j) := by
  have unread : Logger.ofConfig c = .error (.filter c.level e.message) := by
    rw [Logger.ofConfig, h]
  rw [build, unread]
  rfl

/-- Where there is a logger, nothing is done but to find it. -/
theorem build_refused (h : Filter.ofText c.level = .ok f)
    (hj : j.logger = some l) :
    (build now c).run j = (.error .alreadyInstalled, j) := by
  obtain ⟨terminal, logger, written⟩ := j
  cases hj
  rw [build, Logger.ofConfig_of_ok h]
  rfl

/-- Where there is none, the logger is installed, and says so. -/
theorem build_done (h : Filter.ofText c.level = .ok f) (hj : j.logger = none) :
    (build now c).run j
      = (.ok (), Journal.log { j with logger := some ⟨c, f⟩ } now
      (c.announcement (j.terminal c.writer))) := by
  obtain ⟨terminal, logger, written⟩ := j
  cases hj
  rw [build, Logger.ofConfig_of_ok h]
  rfl

/-- An installation is what its parts make it, and one that is refused has
left the journal as it was. -/
theorem build_eq_install (j : Journal) (now : Moment) (c : Config) :
    j.install now c = (j.reply now c).map (fun _ => j.built now c) ∧
      ∀ r, j.reply now c = .error r → j.built now c = j := by
  unfold reply built
  cases h : Filter.ofText c.level with
  | error e =>
      rw [build_unread h, install, Logger.ofConfig, h]
      exact ⟨rfl, fun _ _ => rfl⟩
  | ok f =>
      cases hj : j.logger with
      | some l =>
          rw [build_refused h hj, install, Logger.ofConfig_of_ok h, hj]
          exact ⟨rfl, fun _ _ => rfl⟩
      | none =>
          rw [build_done h hj, install_eq h hj]
          refine ⟨rfl, fun r refused => ?_⟩
          cases refused

end Journal

-- ============================================================ whole runs

/-- Something that a process does: it installs a logger, or makes a step. -/
inductive Act where
  | install (c : Config)
  | step (s : Step)

namespace Act

/-- A configuration is to be installed whose filter can be read. -/
def Readable : Act → Prop
  | install c => ∃ f, Filter.ofText c.level = .ok f
  | step _ => False

/-- The step that is made, if one is. -/
def step? : Act → Option Step
  | install _ => none
  | step s => some s

end Act

/-- The steps that are made on the way, each at its moment. -/
def stepsOf (acts : List (Moment × Act)) : List (Moment × Step) :=
  acts.filterMap fun a => a.2.step?.map (a.1, ·)

theorem stepsOf_append (acts acts' : List (Moment × Act)) :
    stepsOf (acts ++ acts') = stepsOf acts ++ stepsOf acts' :=
  List.filterMap_append

namespace Journal

/-- The journal after an act. -/
def perform (j : Journal) (a : Moment × Act) : Journal :=
  match a.2 with
  | .install c => j.built a.1 c
  | .step s => j.logAll a.1 s.events

/-- The journal after several acts. -/
def performAll (j : Journal) (acts : List (Moment × Act)) : Journal :=
  acts.foldl perform j

variable {j : Journal} {l : Logger} {now : Moment} {c : Config} {f : Filter}
  {acts : List (Moment × Act)}

theorem performAll_append (j : Journal) (acts acts' : List (Moment × Act)) :
    j.performAll (acts ++ acts') = (j.performAll acts).performAll acts' :=
  List.foldl_append

theorem built_of_error {e : FilterFault}
    (h : Filter.ofText c.level = .error e) : j.built now c = j := by
  rw [built, build_unread h]

/-- Without a logger, events are lost. -/
theorem logAll_of_none (hj : j.logger = none) (now : Moment)
    (es : List Event) : j.logAll now es = j := by
  induction es with
  | nil => rfl
  | cons e es ih =>
      have lost : j.log now e = j := by rw [log, hj]
      rw [logAll, List.foldl_cons, lost]
      exact ih

/-- Without a logger, only a filter that can be read changes anything. -/
theorem perform_waiting {a : Moment × Act} (hj : j.logger = none)
    (ha : ¬ a.2.Readable) : j.perform a = j := by
  obtain ⟨now, act⟩ := a
  cases act with
  | step s => exact logAll_of_none hj now s.events
  | install c =>
      cases h : Filter.ofText c.level with
      | error e => exact built_of_error h
      | ok f => exact absurd ⟨f, h⟩ ha

/-- With a logger, only steps change anything. -/
theorem perform_installed {a : Moment × Act} (hj : j.logger = some l) :
    j.perform a = j.after (stepsOf [a]) := by
  obtain ⟨now, act⟩ := a
  cases act with
  | step s => rfl
  | install c =>
      cases h : Filter.ofText c.level with
      | error e => exact built_of_error h
      | ok f =>
          show j.built now c = j
          rw [built, build_refused h hj]

/-- Steps are logged one after the other. -/
theorem after_append (j : Journal) (steps steps' : List (Moment × Step)) :
    j.after (steps ++ steps') = (j.after steps).after steps' :=
  List.foldl_append

/-- No step changes the logger. -/
theorem after_logger (steps : List (Moment × Step)) :
    ∀ j : Journal, (j.after steps).logger = j.logger := by
  have logAll_logger (now : Moment) (es : List Event) :
      ∀ j : Journal, (j.logAll now es).logger = j.logger := by
    induction es with
    | nil => exact fun _ => rfl
    | cons e es ih =>
        exact fun j => (ih (j.log now e)).trans (log_logger j now e)
  induction steps with
  | nil => exact fun _ => rfl
  | cons s steps ih =>
      exact fun j => (ih (j.logAll s.1 s.2.events)).trans (logAll_logger _ _ j)

/-- A process that has no logger yet waits for a filter that can be read. -/
theorem performAll_waiting (hj : j.logger = none)
    (unread : ∀ a ∈ acts, ¬ a.2.Readable) : j.performAll acts = j := by
  induction acts with
  | nil => rfl
  | cons a acts ih =>
      rw [List.forall_mem_cons] at unread
      rw [performAll, List.foldl_cons, perform_waiting hj unread.1]
      exact ih unread.2

/-- A process that has a logger keeps it, and does nothing to its journal but
log its steps. -/
theorem performAll_installed (acts : List (Moment × Act)) :
    ∀ {j : Journal}, j.logger = some l →
      j.performAll acts = j.after (stepsOf acts) := by
  induction acts with
  | nil => exact fun _ => rfl
  | cons a acts ih =>
      intro j hj
      have first :
          j.performAll (a :: acts)
            = (j.after (stepsOf [a])).performAll acts := by
        rw [← perform_installed hj]
        rfl
      have steps : stepsOf (a :: acts) = stepsOf [a] ++ stepsOf acts :=
        stepsOf_append [a] acts
      rw [first, ih ((after_logger _ j).trans hj), steps, after_append]

/-- The journal in which the first filter that can be read has been
installed. -/
theorem built_logger (h : Filter.ofText c.level = .ok f)
    (hj : j.logger = none) : (j.built now c).logger = some ⟨c, f⟩ := by
  rw [built, build_done h hj, log_logger]

/-- Once a filter could be read there is a logger. -/
theorem performAll_logger (hj : j.logger = none)
    (read : ∃ a ∈ acts, a.2.Readable) :
    ∃ l, (j.performAll acts).logger = some l := by
  induction acts with
  | nil => simp at read
  | cons a acts ih =>
      obtain ⟨now, act⟩ := a
      by_cases ha : act.Readable
      · cases act with
        | step s => exact ha.elim
        | install c =>
            obtain ⟨f, hf⟩ := ha
            have made : (j.built now c).logger = some ⟨c, f⟩ :=
              built_logger hf hj
            have first : j.performAll ((now, .install c) :: acts) =
                (j.built now c).after (stepsOf acts) :=
                  performAll_installed acts made
            exact ⟨⟨c, f⟩, by rw [first, after_logger, made]⟩
      · have rest : ∃ a ∈ acts, a.2.Readable := by
          simpa [ha] using read
        have first : j.performAll ((now, act) :: acts) = j.performAll acts :=
          congrArg (performAll · acts) (perform_waiting hj ha)
        rw [first]
        exact ih rest

/-- What has been written is what the first logger makes of its own event
and of the steps after it. -/
theorem performAll_written {before : List (Moment × Act)}
    (unread : ∀ a ∈ before, ¬ a.2.Readable)
    (hf : Filter.ofText c.level = .ok f) (terminal : Stream → Bool)
    (now : Moment) (later : List (Moment × Act)) :
    (performAll { terminal }
        (before ++ (now, .install c) :: later)).written.reverse =
      (Logger.admitted ⟨c, f⟩
        ((now, c.announcement (terminal c.writer))
          :: happenings (stepsOf later))).map
        (Logger.line ⟨c, f⟩ (terminal c.writer)) := by
  have start : performAll { terminal } (before ++ (now, .install c) :: later) =
      (built { terminal } now c).after (stepsOf later) := by
    rw [performAll_append, performAll_waiting rfl unread]
    exact performAll_installed later (built_logger hf rfl)
  obtain ⟨j, install, written⟩ :=
    after_install_written hf terminal now (stepsOf later)
  have same : built { terminal } now c = j := by
    have parts := (build_eq_install { terminal } now c).1
    rw [install, reply, build_done hf rfl] at parts
    exact (Except.ok.inj parts).symm
  rw [start, same]
  exact written

end Journal
end PatternCheck.Log
