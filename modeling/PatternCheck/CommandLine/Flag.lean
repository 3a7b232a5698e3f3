import PatternCheck.CommandLine.Similarity
import PatternCheck.Log.Config
import PatternCheck.Net.Address
import PatternCheck.Service.Endpoint

/-
The flags of the command line, and the texts about them: the help, the
version, and what is said where the flags are misused.
-/

namespace PatternCheck.CommandLine

open Log (Environment)

-- ================================================================ flags

/-- A flag. -/
inductive Flag where
  | config
  | bind
  | staticDir
  | help
  | version
deriving Repr, DecidableEq, Inhabited

namespace Flag

/-- All flags. -/
def all : List Flag := [config, bind, staticDir, help, version]

/-- The name of a flag after two dashes. -/
def long : Flag → String
  | config => "config"
  | bind => "bind"
  | staticDir => "static-dir"
  | help => "help"
  | version => "version"

/-- The letter of a flag after one dash. -/
def short? : Flag → Option Char
  | config => some 'c'
  | bind => some 'b'
  | staticDir => none
  | help => some 'h'
  | version => some 'V'

/-- What the value of a flag is called, if it takes one. -/
def valueName? : Flag → Option String
  | config => some "CONFIG"
  | bind => some "BIND"
  | staticDir => some "STATIC_DIR"
  | _ => none

/-- What a flag is for. -/
def about : Flag → String
  | config => "TOML configuration file"
  | bind => "Listen address, overrides the configuration"
  | staticDir => "Directory of client assets, overrides the configuration"
  | help => "Print help"
  | version => "Print version"

/-- The flag with a name. -/
def ofLong? (name : String) : Option Flag := all.find? (·.long == name)

/-- The flag with a letter. -/
def ofShort? (c : Char) : Option Flag := all.find? (·.short? == some c)

/-- A flag with its value, as it is written. -/
def usage (f : Flag) : String :=
  match f.valueName? with
  | some name => s!"--{f.long} <{name}>"
  | none => s!"--{f.long}"

end Flag

-- ================================================================= texts

/-- The name of the program. -/
def programName : String := "regviz-server"

/-- The variable that names the configuration file, where no flag does. -/
def configVariable : String := "REGVIZ_CONFIG"

/-- What follows the description of a flag. -/
def Flag.remark (env : Environment) : Flag → String
  | config =>
    " [env: " ++ configVariable ++ "="
      ++ (env.get? configVariable).getD "" ++ "]"
  | _ => ""

/-- A text that is followed by blanks up to some width. -/
def padded (width : Nat) (text : String) : String :=
  text ++ String.ofList (List.replicate (width - text.length) ' ')

/-- The words of a text, each with the number of blanks after it; `word` is
the current one, latest character first. -/
def wordsWithBlanks (word : List Char) (blanks : Nat) :
    List Char → List (List Char × Nat)
  | [] => if word.isEmpty && blanks = 0 then [] else [(word.reverse, blanks)]
  | c :: rest =>
    if c = ' ' then wordsWithBlanks word (blanks + 1) rest
    else if blanks = 0 then wordsWithBlanks (c :: word) 0 rest
    else (word.reverse, blanks) :: wordsWithBlanks [c] 0 rest

/-- Words on lines of some width. `used` is the width of the current line,
and `before` the number of blanks between it and the next word. A word
that does not fit begins a line. -/
def wrap (width used before : Nat) : List (List Char × Nat) → List Char
  | [] => []
  | (word, blanks) :: rest =>
    if width < used + word.length then
      '\n' :: word ++ wrap width (word.length + blanks) blanks rest
    else
      List.replicate before ' ' ++ word
        ++ wrap width (used + word.length + blanks) blanks rest

/-- A text on lines of some width. Its first word is never moved. -/
def wrapped (width : Nat) (text : List Char) : List Char :=
  match wordsWithBlanks [] 0 text with
  | [] => []
  | (word, blanks) :: rest =>
    word ++ wrap width (word.length + blanks) blanks rest

/-- The width of the help. -/
def helpWidth : Nat := 100

/-- The width of the longest flag. -/
def usageWidth : Nat := (Flag.all.map fun f => f.usage.length).foldl max 0

/-- Where the descriptions of flags begin. -/
def helpColumn : Nat := usageWidth + 8

/-- The description of a flag in its column. -/
def Flag.description (env : Environment) (f : Flag) : String :=
  let text := (f.about ++ f.remark env).toList
  let lines := (text.splitOn '\n').map (wrapped (helpWidth - helpColumn))
  let newline := '\n' :: List.replicate helpColumn ' '
  String.ofList ((['\n'].intercalate lines).flatMap fun c =>
    if c = '\n' then newline else [c])

/-- The line of the help about a flag. -/
def Flag.helpLine (env : Environment) (f : Flag) : String :=
  let letter := match f.short? with
    | some c => s!"-{c}, "
    | none => "    "
  s!"  {letter}{padded usageWidth f.usage}  {f.description env}\n"

/-- The help. -/
def helpText (env : Environment) : String :=
  "Regular expression validation backend for the regviz visualizer\n\nUsage: "
    ++ programName
    ++ " [OPTIONS]\n\nOptions:\n" ++ String.join
    (Flag.all.map (Flag.helpLine env))

/-- The version. -/
def versionText : String := s!"{programName} {Service.version}\n"

-- =============================================================== misuses

/-- How flags are misused. -/
inductive Misuse where
  /-- An argument that means nothing here, the flag that was meant
  perhaps, and the flags used before. -/
  | unknown (argument : String) (meant : Option Flag) (used : List Flag)
  | missingValue (f : Flag)
  | badValue (f : Flag) (value reason : String)
  | repeated (f : Flag)
  /-- A value for a flag that takes none, and the flags used before. -/
  | needlessValue (f : Flag) (value : String) (used : List Flag)
deriving Repr, DecidableEq, Inhabited

/-- How the program is used with some flags. -/
def usageLine (used : List Flag) : String :=
  if used.isEmpty then s!"Usage: {programName} [OPTIONS]\n"
  else s!"Usage: {programName} "
    ++ String.intercalate " " (used.map Flag.usage) ++ "\n"

namespace Misuse

/-- What is wrong. -/
def summary : Misuse → String
  | unknown argument _ _ => s!"unexpected argument '{argument}' found"
  | missingValue f =>
    s!"a value is required for '{f.usage}' but none was supplied"
  | badValue f value reason =>
    s!"invalid value '{value}' for '{f.usage}': {reason}"
  | repeated f => s!"the argument '{f.usage}' cannot be used multiple times"
  | needlessValue f value _ =>
    s!"unexpected value '{value}' for '{f.usage}' found; no more were expected"

/-- What may have been meant. -/
def tip : Misuse → String
  | unknown _ (some f) _ =>
    s!"  tip: a similar argument exists: '--{f.long}'\n\n"
  | _ => ""

/-- How the program should have been used, where this helps. -/
def usage : Misuse → String
  | unknown _ _ used => usageLine used ++ "\n"
  | repeated _ => usageLine [] ++ "\n"
  | needlessValue _ _ used => usageLine used ++ "\n"
  | _ => ""

/-- The misuse in words. -/
def message (m : Misuse) : String :=
  s!"error: {m.summary}\n\n{m.tip}{m.usage}"
    ++ "For more information, try '--help'.\n"

end Misuse

end PatternCheck.CommandLine
