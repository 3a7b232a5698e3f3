/-
The files below a directory. A file has a path, which is a list of names;
the directories are the paths on the way to a file, so there are no empty
ones but the top. A path is looked up as it is written: step by step, and
so that `..` leads back from a directory that exists.
-/

namespace PatternCheck

/-- A file: its bytes, and when they were last changed, in whole seconds from
the beginning of 1970. -/
structure File where
  content : List UInt8
  modified : Nat
deriving Repr, DecidableEq, Inhabited

/-- Files by their paths. -/
structure Files where
  entries : List (List String × File) := []
deriving Repr, DecidableEq, Inhabited

-- ================================================================ paths

namespace Files

/-- The parts of a text between slashes; `name` is the current one, latest
character first. -/
def splitFrom (name : List Char) : List Char → List String
  | [] => [String.ofList name.reverse]
  | c :: rest =>
    if c = '/' then String.ofList name.reverse :: splitFrom [] rest
    else splitFrom (c :: name) rest

/-- The parts of a text between slashes. -/
def split (text : String) : List String := splitFrom [] text.toList

-- =============================================================== look-up

/-- The file with a path. -/
def file? (fs : Files) (path : List String) : Option File :=
  fs.entries.lookup path

/-- Whether a path is that of a directory. -/
def isDirectory (fs : Files) (path : List String) : Bool :=
  path.isEmpty || fs.entries.any fun (p, _) =>
    path.isPrefixOf p && path.length < p.length

/-- Follows names from a directory. What is above the top is not known. -/
def follow (fs : Files) (here : List String) :
    List String → Option (List String)
  | [] => some here
  | name :: rest =>
    if !fs.isDirectory here then none
    else if name = "" || name = "." then fs.follow here rest
    else if name = ".." then
      if here.isEmpty then none else fs.follow here.dropLast rest
    else fs.follow (here ++ [name]) rest

/-- The path that a text stands for. Texts that begin at the root of the
system stand for none. -/
def locate (fs : Files) (text : String) : Option (List String) :=
  if text.isEmpty || text.startsWith "/" then none
  else fs.follow [] (split text)

/-- The file that a text stands for. -/
def fileAt? (fs : Files) (text : String) : Option File :=
  (fs.locate text).bind fs.file?

/-- The files below a directory. -/
def below (fs : Files) (path : List String) : Files :=
  ⟨fs.entries.filterMap fun (p, f) =>
    if path.isPrefixOf p && path.length < p.length then
      some (p.drop path.length, f)
    else none⟩

/-- Whether a text leads to the top or above it and nowhere else. There is
always a directory. -/
def isAbove (text : String) : Bool :=
  !text.isEmpty && (split text).all fun name =>
    name = "" || name = "." || name = ".."

/-- The directory that a text stands for, if there is one. -/
def directoryAt? (fs : Files) (text : String) : Option Files :=
  match fs.locate text with
  | some path => if fs.isDirectory path then some (fs.below path) else none
  | none => if isAbove text then some {} else none

end Files

-- ============================================================== storage

/-- What a program can look up on the machine that it runs on, by the text
of a path: a file, or the files below a directory. -/
structure Storage where
  file? : String → Option File := fun _ => none
  directory? : String → Option Files := fun _ => none
deriving Inhabited

/-- The machine whose current directory has just these files below it. -/
def Files.storage (fs : Files) : Storage := ⟨fs.fileAt?, fs.directoryAt?⟩

end PatternCheck
