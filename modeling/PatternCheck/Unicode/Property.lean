import PatternCheck.Unicode.Age
import PatternCheck.Unicode.Break

/-
Asking for a Unicode property by name. Names match loosely: case,
blanks, `_`, `-`, a leading "is" and everything outside ASCII do not
count (`looseName`). A single name is tried as a property that a
character has or lacks, then as a general category, then as a script;
a name with a value is looked up among the values of that property.
-/

namespace PatternCheck.Unicode

/-- What a pattern writes between the braces of a property class. -/
inductive PropertyQuery where
  /-- A trait, a general category or a script. -/
  | named (name : String)
  /-- A property and the value it must have. -/
  | valued (name value : String)
deriving Repr, DecidableEq, Inhabited

/-- Why a query has no answer. -/
inductive PropertyError where
  | unknownProperty
  | unknownValue
deriving Repr, DecidableEq, Inhabited

namespace PropertyQuery

-- ============================================================== names

/-- A name without what does not count. "Isc" is kept whole: it is the
short name of a property and not the category "C". -/
def looseName (name : String) : String :=
  let fold (cs : List Char) : List Char :=
    cs.filterMap fun c =>
      if c = ' ' || c = '_' || c = '-' || 0x7F < c.toNat then none
      else if 'A' ≤ c && c ≤ 'Z' then some (Char.ofNat (c.toNat + 0x20))
      else some c
  match name.toList with
  | i :: s :: rest =>
    if (i = 'i' || i = 'I') && (s = 's' || s = 'S') then
      match fold rest with
      | ['c'] => "isc"
      | cs => String.ofList cs
    else String.ofList (fold (i :: s :: rest))
  | cs => String.ofList (fold cs)

/-- Names of properties whose values cannot be asked for. -/
def closedProperties : List String :=
  ["bc", "bidiclass", "bidimirroringglyph", "bidipairedbracket",
    "bidipairedbrackettype", "blk", "block", "bmg", "bpb", "bpt",
    "canonicalcombiningclass", "casefolding", "ccc", "ce", "cf",
    "changeswhennfkccasefolded", "cjkaccountingnumeric",
    "cjkcompatibilityvariant", "cjkiicore", "cjkirggsource", "cjkirghsource",
    "cjkirgjsource", "cjkirgkpsource", "cjkirgksource", "cjkirgmsource",
    "cjkirgssource", "cjkirgtsource", "cjkirguksource", "cjkirgusource",
    "cjkirgvsource", "cjkothernumeric", "cjkprimarynumeric", "cjkrsunicode",
    "compex", "compositionexclusion", "cwkcf", "decompositionmapping",
    "decompositiontype", "dm", "dt", "ea", "eastasianwidth", "equideo",
    "equivalentunifiedideograph", "expandsonnfc", "expandsonnfd",
    "expandsonnfkc", "expandsonnfkd", "fcnfkc", "fcnfkcclosure",
    "fullcompositionexclusion", "hangulsyllabletype", "hst", "incb",
    "indicconjunctbreak", "indicpositionalcategory", "indicsyllabiccategory",
    "inpc", "insc", "isc", "jamoshortname", "jg", "joininggroup",
    "joiningtype", "jsn", "jt", "kaccountingnumeric", "kcompatibilityvariant",
    "kehcat", "kehdesc", "kehhg", "kehifao", "kehjsesh", "kehnomirror",
    "kehnorotate", "kiicore", "kirggsource", "kirghsource", "kirgjsource",
    "kirgkpsource", "kirgksource", "kirgmsource", "kirgssource", "kirgtsource",
    "kirguksource", "kirgusource", "kirgvsource", "kothernumeric",
    "kprimarynumeric", "krsunicode", "lb", "lc", "linebreak",
    "lowercasemapping", "na", "na1", "name", "namealias", "nfcqc",
    "nfcquickcheck", "nfdqc", "nfdquickcheck", "nfkccasefold", "nfkccf",
    "nfkcqc", "nfkcquickcheck", "nfkcscf", "nfkcsimplecasefold", "nfkdqc",
    "nfkdquickcheck", "nt", "numerictype", "numericvalue", "nv", "ocomment",
    "scf", "sfc", "simplecasefolding", "simplelowercasemapping",
    "simpletitlecasemapping", "simpleuppercasemapping", "slc", "stc", "suc",
    "tc", "titlecasemapping", "uc", "unicode1name", "unicoderadicalstroke",
    "uppercasemapping", "urs", "verticalorientation", "vo", "xonfc", "xonfd",
    "xonfkc", "xonfkd"]

/-- Short names that are both a property and a general category; the
category wins. -/
def categoryFirst : List String := ["cf", "sc", "lc"]

-- ========================================================== the lookup

abbrev Answer := Except PropertyError CodeSet

/-- The entry that carries a name. -/
def valueNamed? (values : List PropertyValue) (name : String) :
    Option PropertyValue :=
  values.find? (·.names.contains name)

def answer : Option PropertyValue → Answer
  | some { members := some s, .. } => .ok s
  | _ => .error .unknownValue

/-- Properties whose values can be asked for. -/
def hasValues (name : String) : Bool :=
  ["age", "generalcategory", "gc", "category", "graphemeclusterbreak", "gcb",
    "script", "sc", "scriptextensions", "scx", "sentencebreak", "sb",
    "wordbreak", "wb"].contains name

/-- A script by name; `shared` adds the characters it shares. -/
def script (shared : Bool) (name : String) : Answer :=
  match Script.table.find? (·.names.contains name) with
  | some s => .ok (if shared then s.extended else s.members)
  | none => .error .unknownValue

/-- Whether a script goes by the name, be it one without characters. -/
def isScript (name : String) : Bool :=
  Script.emptyNames.contains name || Script.table.any (·.names.contains name)

def age (name : String) : Answer :=
  match Age.values.find? (·.1.contains name) with
  | some (_, n) => .ok (Age.assignedIn n)
  | none => .error .unknownValue

/-- The answer for a single name. -/
def lookupNamed (name : String) : Answer :=
  let asCategory : Answer :=
    match valueNamed? Category.values name with
    | some v => answer (some v)
    | none =>
      if isScript name then script false name else .error .unknownProperty
  if categoryFirst.contains name then asCategory
  else
    match valueNamed? Trait.values name with
    | some v => answer (some v)
    | none =>
      if hasValues name || closedProperties.contains name then
        .error .unknownProperty
      else asCategory

/-- The answer for a property with a value. -/
def lookupValued (name value : String) : Answer :=
  if ["generalcategory", "gc", "category"].contains name then
    answer (valueNamed? Category.values value)
  else if ["script", "sc"].contains name then script false value
  else if ["scriptextensions", "scx"].contains name then script true value
  else if name = "age" then age value
  else if ["graphemeclusterbreak", "gcb"].contains name then
    answer (valueNamed? Break.Grapheme.values value)
  else if ["wordbreak", "wb"].contains name then
    answer (valueNamed? Break.Word.values value)
  else if ["sentencebreak", "sb"].contains name then
    answer (valueNamed? Break.Sentence.values value)
  else if closedProperties.contains name
    || (valueNamed? Trait.values name).isSome then
    .error .unknownValue
  else .error .unknownProperty

/-- The characters that a query asks for. -/
def lookup : PropertyQuery → Answer
  | .named name => lookupNamed (looseName name)
  | .valued name value => lookupValued (looseName name) (looseName value)

end PropertyQuery

end PatternCheck.Unicode
