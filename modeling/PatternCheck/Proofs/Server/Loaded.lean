import PatternCheck.Proofs.Log.Written
import PatternCheck.Proofs.Server.Contents
import PatternCheck.Proofs.Server.Variables

/-
Configurations as they are loaded: the defaults, a file and the
environment, merged. Since each of the three is a layer, each leaf of the
configuration is that of the environment, or else that of the file, or
else the default (`load_leafwise`). Variables that are about nothing in a
configuration do not count at all, whatever else there is
(`load_touching`). The logger that is installed then may differ from the
one in the configuration, in what its own variables override.
-/

namespace PatternCheck

namespace Log

/-- An environment with a variable set. -/
def Environment.set (env : Environment) (name text : String) : Environment :=
  (name, text) :: env.filter fun v => v.1 ≠ name

end Log

namespace Server

open Log (Environment Journal Moment)
open Settings (Setting touches ofEnvironment)

-- ================================================================== files

/-- Whether this is what the file of a configuration has in it: nothing if
no file is named. -/
inductive Holds (st : Storage) : Option String → Toml.Value → Prop
  | unnamed : Holds st none (.table [])
  | named {path : String} {f : File} {text : List Char}
    {members : List (String × Toml.Value)} :
    st.file? path = some f → Text.Utf8.decode? f.content = .ok text →
    Toml.ofText? (String.ofList text) = some members →
      Holds st (some path) (.table members)

section Loading

variable {st : Storage} {file : Option String} {doc : Toml.Value}

/-- What is loaded are the layers, merged. -/
theorem Holds.load (h : Holds st file doc) (build : Build)
    (env : Environment) : ∃ source,
    Config.load build st env file = Config.ofSettings build
      (((builtIn build).merge (.ofToml source doc)).merge
        (ofEnvironment env)) := by
  cases h with
  | unnamed =>
      refine ⟨.defaults, ?_⟩
      rw [Setting.ofToml]
      rfl
  | @named path f text members hfile htext hmembers =>
      refine ⟨.file (shownPath path), ?_⟩
      have hthere :
          (some path).filter (fun path => (st.file? path).isNone) = none := by
        simp [hfile]
      rw [Config.load, hthere]
      dsimp only
      rw [Config.extract, merged, Option.bind_some, hfile, Option.map_some]
      dsimp only
      rw [fileSettings, htext]
      dsimp only
      rw [hmembers]
      rfl

/-- Of three layers the latest one counts at each leaf. -/
theorem load_layers (build : Build) (hfile : Holds st file doc)
    (hdoc : Typed doc) {env : Environment} (henv : TypedEnvironment env) :
    ∃ c, Config.load build st env file = .ok c ∧
      ∀ l : Leaf, l.get c
        = ((l.inEnvironment env).or (l.inFile doc)).getD
          (l.get (.standard build)) := by
  obtain ⟨source, hload⟩ := hfile.load build env
  have houter := isLayer_builtIn build
  have hinner := houter.merge (hdoc.isLayer source)
  obtain ⟨v, hv, -, hleaves⟩ := (hinner.merge henv.isLayer).configuration build
  refine ⟨.ofDocument build v, by rw [hload, Config.ofSettings, hv],
    fun l => ?_⟩
  rw [hleaves, hinner.held_merge henv.isLayer,
    houter.held_merge (hdoc.isLayer source), henv.held, hdoc.held,
    held_builtIn, ← Option.or_assoc]
  cases (l.inEnvironment env).or (l.inFile doc) <;> rfl

end Loading

-- ============================================================== variables

/-- The settings in a file are a table. -/
theorem fileSettings_table {path : String} {f : File} {t : Setting}
    (h : fileSettings path f = .ok t) :
    ∃ source members, t = .table source members := by
  rw [fileSettings] at h
  split at h
  · cases h
  · split at h
    · cases h
      exact ⟨_, _, by rw [Setting.ofToml]⟩
    · cases h

/-- What is merged into a table counts by what a configuration knows. -/
theorem ofSettings_touching (build : Build) (env : Environment) {t : Setting}
    (h : ∃ source members, t = .table source members) :
    Config.ofSettings build
      (((builtIn build).merge t).merge (ofEnvironment env))
      = Config.ofSettings build (((builtIn build).merge t).merge
        (ofEnvironment (env.filter fun v => touches Config.shape v.1))) := by
  obtain ⟨source, members, rfl⟩ := h
  have htable : ∃ members',
      (builtIn build).merge (.table source members)
        = .table source members' := by
    rw [builtIn, Config.toDocument, Setting.ofDocument, Setting.merge]
    exact ⟨_, rfl⟩
  obtain ⟨members', hmembers'⟩ := htable
  rw [hmembers', Config.ofSettings, Config.ofSettings]
  unfold Config.shape
  rw [Settings.ofSetting_ofEnvironment]

/-- Only variables that are about something in a configuration count. -/
theorem load_touching (build : Build) (st : Storage) (env : Environment)
    (file : Option String) : Config.load build st env file
      = Config.load build st (env.filter fun v => touches Config.shape v.1)
        file := by
  rw [Config.load, Config.load]
  cases file.filter fun path => (st.file? path).isNone with
  | some path => rfl
  | none =>
      dsimp only
      rw [Config.extract, Config.extract, merged, merged]
      cases file.bind fun path => (st.file? path).map (path, ·) with
      | none => exact ofSettings_touching build env ⟨_, _, rfl⟩
      | some named =>
          dsimp only
          cases hsettings : fileSettings named.1 named.2 with
          | error e => rfl
          | ok t =>
              exact ofSettings_touching build env
                (fileSettings_table hsettings)

/-- Setting a variable that is about nothing in a configuration changes
nothing. -/
theorem load_set (build : Build) (st : Storage) (env : Environment)
    (file : Option String) {name : String}
    (h : touches Config.shape name = false) (text : String) :
    Config.load build st (env.set name text) file
      = Config.load build st env file := by
  have hfilter : (env.set name text).filter (fun v => touches Config.shape v.1)
      = env.filter fun v => touches Config.shape v.1 := by
    rw [Environment.set, List.filter_cons_of_neg (by simp [h]),
      List.filter_filter]
    refine List.filter_congr fun v _ => ?_
    by_cases hv : v.1 = name
    · simp [hv, h]
    · simp [hv]
  rw [load_touching, hfilter, ← load_touching]

-- ============================================================ leaf by leaf

/-- The logger that is installed over a configuration has what its own
variables say, and otherwise what the configuration says. -/
theorem installed_config {c : Log.Config} {env : Environment} {j j' : Journal}
    {now : Moment} (h : j.install now (c.override env) = .ok j') :
    ∃ logger, j'.logger = some logger ∧ logger.config =
      { c with
        level :=
          ((env.get? "REGVIZ_LOG").or (env.get? "RUST_LOG")).getD c.level
        format :=
          ((env.get? "REGVIZ_LOG_FORMAT").map Log.Config.formatNamed).getD
            c.format
        display :=
          { c.display with
            time :=
              ((env.get? "REGVIZ_LOG_TIME").map Log.Config.isSet).getD
                c.display.time
            source :=
              ((env.get? "REGVIZ_LOG_SOURCE").map Log.Config.isSet).getD
                c.display.source
            colors := ((env.get? "REGVIZ_LOG_COLORS").map Log.Config.isSet).or
              c.display.colors } } := by
  rw [Journal.install] at h
  split at h
  · cases h
  · next l hl =>
      split at h
      · cases h
      · cases h
        refine ⟨l, Journal.log_logger _ now _, ?_⟩
        rw [Log.Logger.ofConfig] at hl
        split at hl
        · cases hl
          rfl
        · cases hl

/-- A typed file and a typed environment are always loaded, and each leaf
is that of the environment, or else that of the file, or else the default.
Variables with a meaning of their own change nothing in what is loaded. To
the logger that is installed they matter, but only for the parts that they
name. -/
theorem load_leafwise (build : Build) :
    (∀ (st : Storage) (env : Environment) (file : Option String)
      (doc : Toml.Value),
      Holds st file doc → Typed doc → TypedEnvironment env →
      ∃ c, Config.load build st env file = .ok c ∧
        ∀ l : Leaf, l.get c
          = ((l.inEnvironment env).or (l.inFile doc)).getD
            (l.get (.standard build)))
    ∧ (∀ (st : Storage) (env : Environment) (file : Option String)
        (name text : String),
      Foreign name →
        Config.load build st (env.set name text) file
          = Config.load build st env file)
    ∧ ∀ (c : Config) (env : Environment) (j j' : Journal) (now : Moment),
      j.install now (c.log.override env) = .ok j' →
      ∃ logger, j'.logger = some logger ∧ logger.config =
        { c.log with
          level :=
            ((env.get? "REGVIZ_LOG").or (env.get? "RUST_LOG")).getD c.log.level
          format :=
            ((env.get? "REGVIZ_LOG_FORMAT").map Log.Config.formatNamed).getD
              c.log.format
          display :=
            { c.log.display with
              time :=
                ((env.get? "REGVIZ_LOG_TIME").map Log.Config.isSet).getD
                  c.log.display.time
              source :=
                ((env.get? "REGVIZ_LOG_SOURCE").map Log.Config.isSet).getD
                  c.log.display.source
              colors :=
                ((env.get? "REGVIZ_LOG_COLORS").map Log.Config.isSet).or
                c.log.display.colors } } :=
  ⟨fun _ _ _ _ hfile hdoc henv => load_layers build hfile hdoc henv,
    fun st env file _ text h => load_set build st env file h.not_touches text,
    fun _ _ _ _ _ h => installed_config h⟩

/-- A file with a dotted key and a section; variables of leaves in either
case; and variables of the logger. -/
theorem load_leafwise_mixed :
    let text := "limits.nest_limit = 32\n[log]\nlevel = 'warn'"
    let st : Storage :=
      { file? := fun _ => some ⟨Text.Utf8.encode text.toList, 0⟩ }
    let env : Environment :=
      [("regviz_max_body_bytes", "1024"), ("REGVIZ_LOG__FORMAT", "json"),
        ("REGVIZ_LOG", "trace")]
    let c : Config :=
      { Config.standard .debug with
        maxBodyBytes := 1024
        limits := { nesting := 32 }
        log :=
          { Log.Config.auto .debug with level := "warn", format := .json } }
    Config.load .debug st env (some "c.toml") = .ok c
    ∧ Config.load .debug st (env.set "REGVIZ_LOG_LEVEL" "off")
      (some "c.toml") = .ok c
    ∧ ∃ j logger, Journal.install {} default (c.log.override env) = .ok j
      ∧ j.logger = some logger
      ∧ logger.config = { c.log with level := "trace" } := by
  intro text st env c
  have hcontents :
      ((Toml.ofText? (String.ofList text.toList)).any fun members =>
        decide (Typed (.table members)) && Leaf.all.all fun l => decide
          (((l.inEnvironment env).or (l.inFile (.table members))).getD
            (l.get (.standard .debug)) = l.get c))
        = true := by decide +kernel
  obtain ⟨members, hmembers, hcontents⟩ := (Option.any_eq_true _ _).1 hcontents
  obtain ⟨hdoc, hleaf⟩ := Bool.and_eq_true_iff.1 hcontents
  have hfile : Holds st (some "c.toml") (.table members) :=
    .named rfl (Text.Utf8.decode?_encode text.toList) hmembers
  have henv : TypedEnvironment env := by decide +kernel
  obtain ⟨c', hload, hleaves⟩ :=
    (load_leafwise .debug).1 st env (some "c.toml") _ hfile
      (of_decide_eq_true hdoc) henv
  obtain rfl : c' = c := Leaf.ext fun l =>
    (hleaves l).trans
      (of_decide_eq_true (List.all_eq_true.1 hleaf l l.mem_all))
  have hname :
      String.ofList ("REGVIZ_LOG_".toList ++ 'L' :: "EVEL".toList)
        = "REGVIZ_LOG_LEVEL" := by
    decide +kernel
  have hforeign : Foreign "REGVIZ_LOG_LEVEL" :=
    hname ▸ Foreign.part (by decide)
  refine ⟨hload, ?_, ?_⟩
  · rw [(load_leafwise .debug).2.1 st env _ _ "off" hforeign, hload]
  · have hinstall :
        ((Journal.install {} default (c.log.override env)).toOption).isSome
          = true := by
      decide +kernel
    obtain ⟨j, hj⟩ :
        ∃ j, Journal.install {} default (c.log.override env) = .ok j := by
      cases h : Journal.install {} default (c.log.override env) with
      | ok j => exact ⟨j, rfl⟩
      | error e =>
          rw [h] at hinstall
          cases hinstall
    obtain ⟨logger, hlogger, hconfig⟩ :=
      (load_leafwise .debug).2.2 c env {} j default hj
    exact ⟨j, logger, hj, hlogger, hconfig.trans (by decide +kernel)⟩

end Server

end PatternCheck
