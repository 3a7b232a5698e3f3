import PatternCheck.Decimal.Floating
import PatternCheck.Json.Value
import PatternCheck.Keyed
import PatternCheck.Toml.Document

/-
Settings are trees of named values that come from several places. Each
value knows where it comes from, so that a problem with it can name its
source. Trees are merged table by table: under each key the later tree
wins, and where both have tables these are merged in turn.
-/

namespace PatternCheck.Settings

/-- Where a setting comes from. -/
inductive Source where
  /-- The program itself. -/
  | defaults
  /-- A file, with its path. -/
  | file (path : String)
  /-- Variables of the environment. -/
  | environment
deriving Repr, DecidableEq, Inhabited

/-- A value without parts. -/
inductive Scalar where
  | null
  | boolean (b : Bool)
  | unsigned (n : Nat)
  | signed (i : Int)
  | float (f : Decimal.Floating)
  | text (s : String)
  /-- A single character in apostrophes. It is a text, but not a name. -/
  | character (c : Char)
deriving Repr, DecidableEq, Inhabited

/-- A tree of settings. -/
inductive Setting where
  | scalar (source : Source) (value : Scalar)
  | list (source : Source) (items : List Setting)
  /-- Members in the order of their keys. -/
  | table (source : Source) (members : List (String × Setting))
deriving Repr, Inhabited

namespace Setting

/-- Where a setting comes from. -/
def source : Setting → Source
  | scalar s _ => s
  | list s _ => s
  | table s _ => s

-- ============================================================== merging

mutual

/-- Two trees, of which the second one wins. -/
def merge : Setting → Setting → Setting
  | table _ ms, table s ns => table s (mergeMembers ms ns)
  | _, other => other

/-- Two lists of members, of which the second one wins. -/
def mergeMembers :
    List (String × Setting) → List (String × Setting) → List (String × Setting)
  | [], ns => ns
  | (key, a) :: ms, ns =>
    match ns.lookup key with
    | some b => Keyed.put key (merge a b) (mergeMembers ms ns)
    | none => Keyed.put key a (mergeMembers ms ns)

end

-- ============================================================== sources

mutual

/-- A document as a tree. -/
def ofDocument (source : Source) : Json.Value → Setting
  | .null => scalar source .null
  | .bool b => scalar source (.boolean b)
  | .number (.natural n) => scalar source (.unsigned n)
  | .number (.negative n) => scalar source (.signed (-n))
  | .number (.decimal isNegative s e) =>
    scalar source (.float (Decimal.Floating.ofDecimal isNegative s e))
  | .string s => scalar source (.text s)
  | .array items => list source (ofDocuments source items)
  | .object members => table source (Keyed.ofList (ofMembers source members))

/-- Documents as trees. -/
def ofDocuments (source : Source) : List Json.Value → List Setting
  | [] => []
  | v :: rest => ofDocument source v :: ofDocuments source rest

/-- The members of a document as trees. -/
def ofMembers (source : Source) :
    List (String × Json.Value) → List (String × Setting)
  | [] => []
  | (key, v) :: rest => (key, ofDocument source v) :: ofMembers source rest

end

mutual

/-- A value of a file as a tree. -/
def ofToml (source : Source) : Toml.Value → Setting
  | .string s => scalar source (.text s)
  | .integer i => scalar source (.signed i)
  | .float f => scalar source (.float f)
  | .boolean b => scalar source (.boolean b)
  | .array items => list source (ofTomlItems source items)
  | .table members =>
    table source (Keyed.ofList (ofTomlMembers source members))

/-- Values of a file as trees. -/
def ofTomlItems (source : Source) : List Toml.Value → List Setting
  | [] => []
  | v :: rest => ofToml source v :: ofTomlItems source rest

/-- Members of a table in a file as trees. -/
def ofTomlMembers (source : Source) :
    List (String × Toml.Value) → List (String × Setting)
  | [] => []
  | (key, v) :: rest => (key, ofToml source v) :: ofTomlMembers source rest

end

end Setting

end PatternCheck.Settings
