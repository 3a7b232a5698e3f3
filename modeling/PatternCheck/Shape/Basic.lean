/-
Shapes of documents: what a document has to look like before a typed
value can be made of it. Limits, diagnostics and configurations are read
by their shape, from JSON text, from a JSON document and from merged
settings alike; a document that does not fit has one of the mismatches
listed here, and each of the three readers says in its own words where
and how.
-/

namespace PatternCheck

-- =============================================================== shapes

mutual

/-- What a document has to look like. -/
inductive Shape where
  | boolean
  | text
  /-- A file path. -/
  | path
  /-- An internet address with a port. -/
  | address
  /-- A natural number below a bound; the name is that of the number
  type. -/
  | natural (name : String) (bound : Nat)
  /-- One of some names; the first name is that of the type. -/
  | choice (name : String) (names : List String)
  /-- Possibly null. -/
  | optional (shape : Shape)
  /-- Named members. Where `filled` is set, members may be missing and
  have a default value; otherwise only optional ones may. -/
  | record (name : String) (filled : Bool) (fields : Fields)

/-- The members of a record, in order. -/
inductive Fields where
  | nil
  | cons (name : String) (shape : Shape) (rest : Fields)

end

deriving instance Repr, Inhabited for Shape, Fields

namespace Shape

/-- Sizes and places, as wide as an address. -/
def size : Shape := natural "usize" UInt64.size

/-- Counts of half that width. -/
def count : Shape := natural "u32" UInt32.size

/-- What was expected, in words. -/
def expected : Shape → String
  | boolean => "a boolean"
  | text => "a string"
  | path => "path string"
  | address => "socket address"
  | natural name _ => name
  | choice .. => "string or map"
  | optional s => s.expected
  | record name _ _ => "struct " ++ name

/-- Whether a member of this shape may be missing where there are no
defaults. -/
def isOptional : Shape → Bool
  | optional _ => true
  | _ => false

end Shape

namespace Fields

/-- Members from a list. -/
def ofList : List (String × Shape) → Fields
  | [] => nil
  | (name, shape) :: rest => cons name shape (ofList rest)

/-- The names of members, in order. -/
def names : Fields → List String
  | nil => []
  | cons name _ rest => name :: rest.names

/-- How many members there are. -/
def length (f : Fields) : Nat := f.names.length

end Fields

-- =========================================================== mismatches

/-- What was found where something else was expected. -/
inductive Found where
  | null
  | boolean (b : Bool)
  | unsigned (n : Nat)
  | signed (i : Int)
  /-- A number with a fraction or an exponent; its text depends on who
  reports it. -/
  | float (text : String)
  | text (s : String)
  | list
  | table
deriving Repr, DecidableEq, Inhabited

/-- Why a document does not fit a shape. -/
inductive Mismatch where
  /-- Another kind of value. -/
  | kind (found : Found) (expected : String)
  /-- The right kind, but not a value that is possible here. -/
  | value (found : Found) (expected : String)
  /-- A list of another length. -/
  | length (found : Nat) (expected : String)
  /-- None of the names that are possible. -/
  | unknownName (found : String) (names : List String)
  | missing (member : String)
  | duplicate (member : String)
  /-- A text that should be an address. -/
  | badAddress
deriving Repr, DecidableEq, Inhabited

namespace Mismatch

/-- A list of possible names, in words. -/
def oneOf : List String → String
  | [] => "there are no variants"
  | [a] => s!"expected `{a}`"
  | [a, b] => s!"expected `{a}` or `{b}`"
  | names =>
    "expected one of " ++ String.intercalate ", "
      (names.map fun n => s!"`{n}`")

end Mismatch

end PatternCheck
