import PatternCheck.CommandLine.Program
import PatternCheck.Http.Wire
import Std.Time.Format

/-
The program at work: what it finds on the machine is handed to the library,
and what the library answers is written out. The connection is the
standard input and output, as a supervisor hands it over; its end is the
signal to stop.
-/

namespace PatternCheck

open CommandLine (World Options Outcome Start)
open Log (Environment Journal Moment)

-- ========================================================== environment

/-- The program is built for work on it. -/
def build : Build := .debug

/-- The reading of the clock. The places in the sources are not known when
the program runs, and are shown as nameless. -/
def clock : IO Moment := do
  let zone := Std.Time.TimeZone.ZoneRules.ofTimeZone Std.Time.TimeZone.UTC
  let time := Std.Time.DateTime.ofTimestamp (← Std.Time.Timestamp.now) zone
  return ⟨time.format "uuuu-MM-dd'T'HH:mm:ss.SSSSSS'Z'", "main", 1,
    fun _ => default⟩

/-- The variables in a block of texts with zeros between them. -/
def environmentOfBlock (block : String) : Environment :=
  (block.splitOn "\x00").filterMap fun entry =>
    match entry.splitOn "=" with
    | name :: first :: rest =>
      some (name, String.intercalate "=" (first :: rest))
    | _ => none

/-- The variables of the process. -/
def currentEnvironment : IO Environment := do
  try
    return environmentOfBlock (← IO.FS.readFile "/proc/self/environ")
  catch _ => return []

/-- The file with a path, if it is one. -/
def readFile? (path : String) : IO (Option File) := do
  try
    let data ← (← IO.FS.realPath path).metadata
    if data.type matches .file then
      return some ⟨(← IO.FS.readBinFile path).toList, data.modified.sec.toNat⟩
    return none
  catch _ => return none

/-- The files below a directory; `names` leads to it from the top. -/
partial def readFiles (path : String) (names : List String) :
    IO (List (List String × File)) := do
  let mut found := []
  for entry in ← (← IO.FS.realPath path).readDir do
    let inner := names ++ [entry.fileName]
    match ← readFile? entry.path.toString with
    | some f => found := (inner, f) :: found
    | none => found := found ++ (← readFiles entry.path.toString inner)
  return found

/-- The files below a directory, if it is one. -/
def readDirectory? (path : String) : IO (Option Files) := do
  try
    return some ⟨← readFiles path []⟩
  catch _ => return none

/-- What the program can look up: the files that its options and its
configuration name, as they are when it starts. -/
def lookUp (env : Environment) (arguments : List String) : IO Storage := do
  match Options.ofArguments env arguments with
  | .error _ => return {}
  | .ok o =>
    let named ← match o.config with
      | some path => readFile? path
      | none => pure none
    let files : Storage := { file? := fun _ => named }
    match Server.Config.load build files env o.config with
    | .error _ => return files
    | .ok c =>
      let assets ← match (o.applied c).staticDir with
        | some path => readDirectory? path
        | none => pure none
      return { files with directory? := fun _ => assets }

-- ============================================================== service

/-- Writes what has been logged. -/
def written (j : Journal) : IO Journal := do
  (← IO.getStdout).putStr (j.output .stdout)
  (← IO.getStderr).putStr (j.output .stderr)
  return { j with written := [] }

/-- The lines up to an empty one; none at the end of the connection. -/
partial def readLines (input : IO.FS.Stream) (lines : List String) :
    IO (Option (List String)) := do
  let line ← input.getLine
  if line.isEmpty then return none
  match Http.withoutEnd line with
  | "" => return some lines.reverse
  | text => readLines input (text :: lines)

/-- So many bytes, or those up to the end of the connection. -/
partial def readBytes (input : IO.FS.Stream) (acc : ByteArray) (count : Nat) :
    IO ByteArray := do
  if count ≤ acc.size then return acc
  let more ← input.read (count - acc.size).toUSize
  if more.isEmpty then return acc
  readBytes input (acc ++ more) count

/-- Answers requests until the end of the connection. -/
partial def answerRequests (site : Service.Site) (input output : IO.FS.Stream)
  (j : Journal) :
    IO Journal := do
  match ← readLines input [] with
  | none => return j
  | some lines =>
    match Http.Request.ofLines? lines with
    | none => return j
    | some r =>
      let body ← readBytes input .empty (r.headers.declaredLength?.getD 0)
      let (response, events) := site.answer { r with body := body.toList }
      output.putStr response.head
      output.write ⟨response.body.toArray⟩
      output.flush
      answerRequests site input output (← written (j.logAll (← clock) events))

/-- Runs the program: its code when it ends. -/
def run (arguments : List String) : IO UInt32 := do
  let environment ← currentEnvironment
  let storage ← lookUp environment arguments
  let world : World :=
    { build, arguments, environment, storage, host := .ok, now := ← clock }
  let o ← match world.start with
    | .ended o => pure o
    | .serving r j => do
      let j ← written j
      let j ← answerRequests r.site (← IO.getStdin) (← IO.getStdout) j
      pure (CommandLine.stop (← clock) j)
  (← IO.getStdout).putStr o.stdout
  (← IO.getStderr).putStr o.stderr
  return UInt32.ofNat o.code

end PatternCheck

def main (arguments : List String) : IO UInt32 := PatternCheck.run arguments
