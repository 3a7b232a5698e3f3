import PatternCheck.CommandLine.Program
import PatternCheck.Proofs.CommandLine.Reading
import PatternCheck.Proofs.Log.Shown

/-
From the arguments to the server. What is given on the command line comes
after everything else (`Given.over`): the configuration is loaded and only
then changed, so what is wrong with it stays wrong. There are several points
at which the program can fail before it listens, and each of them ends it
(`World.Fails`); the first one wins (`start_given`).
-/

namespace PatternCheck

-- ================================================================ server

namespace Server.Config

/-- There is no service without its directory. -/
theorem site_missing {c : Config} {st : Storage} {path : String}
    (directory : c.staticDir = some path)
    (missing : st.directory? path = none) :
    c.site st = .error (.staticDir path) := by
  rw [site, directory]
  dsimp only
  rw [missing]

/-- With its directory there, or without asking for one, there is a
service. -/
theorem site_there {c : Config} {st : Storage}
    (there : ∀ path, c.staticDir = some path → st.directory? path ≠ none) :
    c.site st
      = .ok { config := c, assets := c.staticDir.bind st.directory? } := by
  cases directory : c.staticDir with
  | none => rw [site, directory]; rfl
  | some path =>
    obtain ⟨files, hfiles⟩ :=
      Option.ne_none_iff_exists'.1 (there path directory)
    rw [site, directory]
    dsimp only
    rw [hfiles, Option.bind_some, hfiles]

/-- The directory is looked for first. -/
theorem start_missing {c : Config} {st : Storage} {path : String}
    (directory : c.staticDir = some path) (missing : st.directory? path = none)
    (host : Host) : c.start st host = .error (.staticDir path) := by
  rw [start, site_missing directory missing]
  rfl

/-- An address that cannot be had is the next failure. -/
theorem start_taken {c : Config} {st : Storage} {host : Host} {reason : String}
    (there : ∀ path, c.staticDir = some path → st.directory? path ≠ none)
    (taken : host c.bind = .error reason) :
    c.start st host = .error (.bind c.bind reason) := by
  rw [start, site_there there]
  dsimp only [Bind.bind, Except.bind]
  rw [taken]

/-- The server runs at the address that it was given in the end, which is not
always the one that it asked for. -/
theorem start_free {c : Config} {st : Storage} {host : Host}
    {address : Net.Address}
    (there : ∀ path, c.staticDir = some path → st.directory? path ≠ none)
    (free : host c.bind = .ok address) :
    c.start st host
      = .ok ⟨address,
        { config := c, assets := c.staticDir.bind st.directory? }⟩ := by
  rw [start, site_there there]
  dsimp only [Bind.bind, Except.bind]
  rw [free]
  rfl

end Server.Config

namespace CommandLine

open Log (Environment Happening Journal Logger)
open Server (Failure)

-- =============================================================== failure

/-- The program ends because of a failure, whatever requests there might be.
It answers none of them, and it never logs that it listens. -/
def World.Fails (w : World) (f : Failure) : Prop :=
  ∃ (logger : Option Logger) (hs : List Happening) (doing : String),
    (∀ h ∈ hs, h.2.message ≠ "regviz server listening")
    ∧ ∀ requests, w.run requests
      = (failed (Journal.record { logger } hs) doing f, [])
      ∧ (w.run requests).1.code = 1

namespace World

variable {w : World} {f : Failure} {doing : String}

theorem fails_of_ended (logger : Option Logger) (hs : List Happening)
    (unheard : ∀ h ∈ hs, h.2.message ≠ "regviz server listening")
    (h : w.start = .ended (failed (Journal.record { logger } hs) doing f)) :
    w.Fails f := by
  refine ⟨logger, hs, doing, unheard, fun requests => ?_⟩
  rw [run, h]
  exact ⟨rfl, rfl⟩

/-- Nothing has been logged where there is no logger. -/
theorem fails_at_once (h : w.start = .ended (failed {} doing f)) : w.Fails f :=
  fails_of_ended none [] (fun _ mem => (List.not_mem_nil mem).elim) h

/-- A logger that has just been installed has only said so. -/
theorem fails_installed {c : Log.Config} {j : Journal}
    (installed : Journal.install {} w.now c = .ok j)
    (h : w.start = .ended (failed j doing f)) : w.Fails f := by
  obtain ⟨filter, hfilter⟩ := Log.Journal.readable_of_install installed
  rw [Log.Journal.install_eq hfilter rfl] at installed
  cases installed
  refine fails_of_ended (some ⟨c, filter⟩) [(w.now, c.announcement false)]
    (fun h mem => ?_) h
  rw [List.mem_singleton.1 mem]
  have other : "logger installed" ≠ "regviz server listening" := by decide
  exact other

end World

-- ================================================================= start

/-- A configuration with what is given on the command line in its place. -/
def Given.over (gs : List Given) (c : Server.Config) : Server.Config :=
  { c with
    bind := ((valueOf gs .bind).bind Net.Address.ofText?).getD c.bind
    staticDir := (valueOf gs .staticDir).or c.staticDir }

/-- The configuration file: the one that is given, or else the one that the
environment names. -/
def Given.file? (gs : List Given) (env : Environment) : Option String :=
  (valueOf gs .config).or (env.get? configVariable)

namespace World

variable {w : World} {gs : List Given}

/-- Arguments that are in order leave the configuration that is loaded, with
what they say put over it. -/
theorem start_loaded
    (read : Options.ofArguments w.environment w.arguments
      = .ok (Given.optionsIn w.environment gs)) {c : Server.Config}
    (loaded : Server.Config.load w.build w.storage w.environment
      (Given.file? gs w.environment) = .ok c) :
    w.start = w.serve (Given.over gs c) := by
  rw [start, read]
  dsimp only
  rw [Given.optionsIn, ← Given.file?, loaded]
  rfl

/-- A configuration that cannot be loaded ends the program before there is a
logger. -/
theorem start_unloaded
    (read : Options.ofArguments w.environment w.arguments
      = .ok (Given.optionsIn w.environment gs)) {f : Failure}
    (unloaded : Server.Config.load w.build w.storage w.environment
      (Given.file? gs w.environment)
      = .error f) : w.Fails f := by
  have ended :
      w.start = .ended (failed {} "failed to load configuration" f) := by
    rw [start, read]
    dsimp only
    rw [Given.optionsIn, ← Given.file?, unloaded]
  exact fails_at_once ended

variable {c : Server.Config}

/-- So does a logger that cannot be installed. -/
theorem serve_refused {r : Log.Refusal}
    (refused : Journal.install {} w.now (c.log.override w.environment)
      = .error r) :
    w.serve c = .ended
      (failed {} "failed to initialize logging" (.log r)) := by
  rw [serve, refused]

/-- A server that cannot start ends the program after the logger has been
installed. -/
theorem serve_failed {j : Journal}
    (installed : Journal.install {} w.now (c.log.override w.environment)
      = .ok j) {f : Failure}
    (failure : c.start w.storage w.host = .error f) :
    w.serve c = .ended (failed j "server exited with an error" f) := by
  rw [serve, installed]
  dsimp only
  rw [failure]

/-- A server that starts says where it listens. -/
theorem serve_started {j : Journal}
    (installed : Journal.install {} w.now (c.log.override w.environment)
      = .ok j)
    {r : Server.Running} (started : c.start w.storage w.host = .ok r) :
    w.serve c = .serving r (j.log w.now r.listening) := by
  rw [serve, installed]
  dsimp only
  rw [started]

end World

end CommandLine

end PatternCheck
