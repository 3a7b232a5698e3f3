import PatternCheck.Http.ByteRange
import PatternCheck.Http.Date
import PatternCheck.Http.MediaType
import PatternCheck.Http.Message

/-
Files as answers to requests. The path of a request names a file below a
directory, or a directory there, for which its index stands; a path that
would lead out of the directory names nothing. A request may ask for a
part of a file, or for the file only if it was changed, or was not
changed, since some time.
-/

namespace PatternCheck.Http

-- ================================================================ paths

/-- The value of two hexadecimal digits. -/
def hexPair? (a b : UInt8) : Option UInt8 := do
  let high ← Decimal.digit? 16 (Char.ofNat a.toNat)
  let low ← Decimal.digit? 16 (Char.ofNat b.toNat)
  return UInt8.ofNat (high * 16 + low)

/-- Bytes in which a percent sign and two digits stand for a byte. -/
def percentDecoded : List UInt8 → List UInt8
  | [] => []
  | 0x25 :: a :: b :: rest =>
    match hexPair? a b with
    | some byte => byte :: percentDecoded rest
    | none => 0x25 :: percentDecoded (a :: b :: rest)
  | byte :: rest => byte :: percentDecoded rest

/-- The names on a decoded path, without those that lead nowhere. A path
that begins at a root or leads upwards has none. -/
def namesOnPath? (decoded : List Char) : Option (List String) :=
  if decoded.head? = some '/' then none
  else
    let names :=
      (Files.split (String.ofList decoded)).filter fun name =>
        name ≠ "" && name ≠ "."
    if ".." ∈ names then none else some names

/-- The names on the path of a request. -/
def assetPath? (path : String) : Option (List String) :=
  match Text.Utf8.decode?
      (percentDecoded
        (Text.Utf8.encode (path.toList.dropWhile (· = '/')))) with
  | .ok decoded => namesOnPath? decoded
  | .error _ => none

-- =============================================================== look-up

/-- What the path of a request leads to. -/
inductive Asset where
  | file (name : String) (f : File)
  /-- A directory that is named without a slash after it. -/
  | directory
  | missing
deriving Repr, DecidableEq, Inhabited

/-- The name of a file that stands for its directory. -/
def indexName : String := "index.html"

/-- What a path leads to. -/
def Asset.ofPath (fs : Files) (names : List String) (slashAfter : Bool) :
    Asset :=
  if fs.isDirectory names then
    if slashAfter then
      match fs.file? (names ++ [indexName]) with
      | some f => .file indexName f
      | none => .missing
    else .directory
  else
    match fs.file? names with
    | some f => .file (names.getLast?.getD "") f
    | none => .missing

/-- What the path of a request leads to; without a directory, nowhere. -/
def Asset.ofTarget (root : Option Files) (t : Target) : Asset :=
  match root, assetPath? t.path with
  | some fs, some names => .ofPath fs names (t.path.endsWith "/")
  | _, _ => .missing

-- =============================================================== answers

/-- The target with a slash after its path. -/
def Target.withSlash (t : Target) : Target := { t with path := t.path ++ "/" }

/-- The answer that depends on when a file was changed, if there is one. -/
def conditional? (f : File) (hs : Headers) : Option Response :=
  let since (name : String) : Option Nat := (hs.get? name).bind Date.ofText?
  if (since "if-unmodified-since").any (· < f.modified) then
    some { status := 412 }
  else if (since "if-modified-since").any (f.modified ≤ ·) then
    some { status := 304 }
  else none

/-- What is said about a part of a file of some size. -/
def contentRange (part : String) (size : Nat) : String × String :=
  ("content-range", s!"bytes {part}/{size}")

/-- The answer with a part of a file, or why there is none. -/
def partAnswer (f : File) (base : Headers) (ranges : Option (List ByteRange)) :
    Response :=
  let size := f.content.length
  let refused : Headers := base ++ [contentRange "*" size]
  match ranges.bind (ByteRange.stretches? size) with
  | none => { status := 416, headers := refused }
  | some [(first, last)] =>
    let body := (f.content.drop first).take (last + 1 - first)
    { status := 206
      headers := base ++ [contentRange s!"{first}-{last}" size,
        ("content-length", toString body.length)]
      body }
  | some _ =>
    { status := 416
      headers := refused
      body := Text.Utf8.encode "Cannot serve multipart range requests".toList }

/-- The answer with a file. -/
def fileAnswer (f : File) (name : String) (hs : Headers) : Response :=
  match conditional? f hs with
  | some r => r
  | none =>
    let base : Headers :=
      [("content-type", MediaType.ofName name), ("accept-ranges", "bytes"),
        ("last-modified", (Date.ofSeconds f.modified).render)]
    match hs.visible? "range" with
    | some text => partAnswer f base (ByteRange.ofText? text)
    | none =>
      { headers := base ++ [("content-length", toString f.content.length)],
        body := f.content }

/-- The answer with what the path of a request leads to. -/
def Asset.answer (a : Asset) (r : Request) : Response :=
  match a with
  | .file name f => fileAnswer f name r.headers
  | .directory =>
    { status := 307, headers := [("location", r.target.withSlash.render)] }
  | .missing => { status := 404 }

/-- The answer of a directory of files. -/
def assetAnswer (root : Option Files) (r : Request) : Response :=
  if r.method = "GET" || r.method = "HEAD" then
    (Asset.ofTarget root r.target).answer r
  else { status := 405, headers := [("allow", "GET,HEAD")] }

end PatternCheck.Http
