import PatternCheck.Files
import PatternCheck.Server.Config
import PatternCheck.Server.Failure
import PatternCheck.Settings.Variable
import PatternCheck.Text.Utf8

/-
Where the configuration comes from: the values that are built in, a file
if one is named, and variables of the environment, merged leaf by leaf
with the later ones winning, and then read by the shape that it should
have.
-/

namespace PatternCheck.Server

open Log (Environment)
open Settings (Setting)

/-- The settings that are built in. -/
def builtIn (build : Build) : Setting :=
  .ofDocument .defaults (Config.standard build).toDocument

/-- The path of a file as reports show it: without what changes nothing. -/
def shownPath (path : String) : String :=
  String.intercalate "/" ((Files.split path).filter fun name =>
    name ≠ "" && name ≠ ".")

/-- The settings in the text of a file. -/
def fileSettings (path : String) (f : File) : Except Failure Setting :=
  match Text.Utf8.decode? f.content with
  | .error _ => .error .configSyntax
  | .ok cs =>
    match Toml.ofText? (String.ofList cs) with
    | some members => .ok (.ofToml (.file (shownPath path)) (.table members))
    | none => .error .configSyntax

/-- All settings, merged. A file that is not there has none. -/
def merged (build : Build) (st : Storage) (env : Environment)
    (file : Option String) : Except Failure Setting := do
  let named := file.bind fun path => (st.file? path).map (path, ·)
  let inFile ← match named with
    | some (path, f) => fileSettings path f
    | none => .ok (.table .defaults [])
  return ((builtIn build).merge inFile).merge (Settings.ofEnvironment env)

/-- The configuration that all settings make. -/
def Config.ofSettings (build : Build) (s : Setting) : Except Failure Config :=
  match Settings.ofSetting Config.shape s with
  | .ok v => .ok (.ofDocument build v)
  | .error p => .error (.config p)

/-- The configuration from whatever there is. -/
def Config.extract (build : Build) (st : Storage) (env : Environment)
    (file : Option String) : Except Failure Config := do
  Config.ofSettings build (← merged build st env file)

/-- The configuration from a file that has to be there, if one is named,
and from the rest. -/
def Config.load (build : Build) (st : Storage) (env : Environment)
    (file : Option String) : Except Failure Config :=
  match file.filter fun path => (st.file? path).isNone with
  | some path => .error (.configFile path)
  | none => Config.extract build st env file

end PatternCheck.Server
