import PatternCheck.CommandLine.Flag

/-
Reading the arguments of the command line, from left to right. The first
thing that is wrong, or the first request for the help or the version,
decides. The value of a flag may be in the same argument or in the next
one; in the latter case it is looked at only when the argument after it
is.
-/

namespace PatternCheck.CommandLine

open Log (Environment)

/-- What the arguments choose. -/
structure Options where
  config : Option String := none
  bind : Option Net.Address := none
  staticDir : Option String := none
deriving Repr, DecidableEq, Inhabited

/-- Why reading the arguments ends before their end. -/
inductive Ending where
  | help
  | version
  | misuse (m : Misuse)
deriving Repr, DecidableEq, Inhabited

/-- A flag that has been read, with what is known of its value. -/
inductive Pending where
  | none
  /-- A flag whose value may be in the next argument. -/
  | flag (f : Flag)
  /-- A flag with its value, which has not been looked at. -/
  | value (f : Flag) (text : String)
deriving Repr, DecidableEq, Inhabited

/-- How far reading has come. -/
structure Progress where
  options : Options := {}
  /-- The flags with a value, in order. -/
  used : List Flag := []
  pending : Pending := .none
deriving Repr, DecidableEq, Inhabited

namespace Options

/-- The options with a value for a flag. -/
def set (o : Options) (f : Flag) (value : String) : Except Misuse Options :=
  match f with
  | .bind =>
    match Net.Address.ofText? value with
    | some address => .ok { o with bind := some address }
    | none => .error (.badValue f value "invalid socket address syntax")
  | .config =>
    if value.isEmpty then .error (.missingValue f)
    else .ok { o with config := some value }
  | .staticDir =>
    if value.isEmpty then .error (.missingValue f)
    else .ok { o with staticDir := some value }
  | _ => .ok o

end Options

namespace Progress

/-- Takes the value of a flag. -/
def take (p : Progress) (f : Flag) (value : String) :
    Progress × Option Misuse :=
  if f ∈ p.used then
    ({ p with used := p.used.filter (· ≠ f) }, some (.repeated f))
  else
    let used := p.used ++ [f]
    match p.options.set f value with
    | .ok options => ({ p with options, used }, none)
    | .error m => ({ p with used }, some m)

/-- Takes the value that has not been looked at. -/
def settle (p : Progress) : Progress × Option Misuse :=
  let q := { p with pending := .none }
  match p.pending with
  | .none => (q, none)
  | .flag f => (q, some (.missingValue f))
  | .value f text => q.take f text

/-- Goes on if the value that has not been looked at is in order. -/
def settled (p : Progress) (next : Progress → Except Ending Progress) :
    Except Ending Progress :=
  match p.settle with
  | (_, some m) => .error (.misuse m)
  | (q, none) => next q

/-- A flag, with a value if there is one in the same argument. -/
def flag (p : Progress) (f : Flag) (value : Option String) :
    Except Ending Progress :=
  p.settled fun q =>
    match f, value with
    | .help, _ => .error .help
    | .version, _ => .error .version
    | f, none => .ok { q with pending := .flag f }
    | f, some text =>
      match q.take f text with
      | (q, none) => .ok q
      | (_, some m) => .error (.misuse m)

/-- An argument that means nothing here. -/
def unknown (argument : String) : Except Ending Progress :=
  .error (.misuse (.unknown argument none []))

/-- A name after two dashes, with a value if there is one in the same
argument. -/
def longFlag (p : Progress) (name : String) (value : Option String) :
    Except Ending Progress :=
  match Flag.ofLong? name with
  | some f =>
    match f.valueName?, value with
    | none, some text =>
      .error (.misuse (.needlessValue f text (p.used ++ [f])))
    | _, _ => p.flag f value
  | none =>
    let used := p.settle.1.used
    let meant :=
      (Similarity.mostSimilar? name (Flag.all.map Flag.long)).bind Flag.ofLong?
    let mentioned := match meant with
      | some f => if f ∈ used then used else used ++ [f]
      | none => used
    .error (.misuse (.unknown ("--" ++ name) meant mentioned))

/-- A letter after one dash; what follows it is its value. -/
def shortFlag (p : Progress) (letter : Char) (rest : List Char) :
    Except Ending Progress :=
  match Flag.ofShort? letter with
  | none => unknown (String.ofList ['-', letter])
  | some f =>
    p.flag f (match rest with
      | [] => none
      | '=' :: value => some (String.ofList value)
      | value => some (String.ofList value))

/-- The name and the value in an argument after two dashes. -/
def splitValue (cs : List Char) : String × Option String :=
  let name := cs.takeWhile (· ≠ '=')
  (String.ofList name,
    match cs.drop name.length with
    | _ :: value => some (String.ofList value)
    | [] => none)

/-- Any other argument: it is the value of the flag before it, if that
waits for one. -/
def plain (p : Progress) (argument : String) : Except Ending Progress :=
  match p.pending with
  | .flag f => .ok { p with pending := .value f argument }
  | _ => unknown argument

/-- One argument. -/
def step (p : Progress) (argument : String) : Except Ending Progress :=
  match argument.toList with
  | '-' :: '-' :: rest =>
    let (name, value) := splitValue rest
    p.longFlag name value
  | '-' :: letter :: rest => p.shortFlag letter rest
  | _ => p.plain argument

/-- The options at the end; the environment names the configuration file
if no flag does. -/
def finish (p : Progress) (env : Environment) : Except Ending Progress :=
  p.settled fun q =>
    match env.get? configVariable with
    | some value =>
      if Flag.config ∈ q.used then .ok q else q.flag .config (some value)
    | none => .ok q

/-- All arguments. After two dashes alone no argument has a meaning. -/
def read (env : Environment) (p : Progress) :
    List String → Except Ending Progress
  | [] => p.finish env
  | "--" :: [] => p.finish env
  | "--" :: argument :: _ => unknown argument
  | argument :: rest => do read env (← p.step argument) rest

end Progress

/-- What the arguments choose. -/
def Options.ofArguments (env : Environment) (arguments : List String) :
    Except Ending Options := do
  return (← Progress.read env {} arguments).options

end PatternCheck.CommandLine
