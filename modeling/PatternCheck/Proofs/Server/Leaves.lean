import PatternCheck.Proofs.Settings.Reading
import PatternCheck.Server.Loading

/-
The leaves of a configuration: the things in it that have no parts, each
with the path that leads to it in a document and with the variable that
sets it. A configuration is known by its leaves (`Leaf.ext`), and the
configuration that a document describes has at each leaf what the document
has there, or else what it has by default (`Leaf.get_ofDocument`). The
default is that of the section: a document with a `log` section that says
nothing about the filter leaves it to the logger's own default, and one
without such a section leaves it to that of the whole configuration. Both
depend on how the program is built.
-/

namespace PatternCheck.Server

open Json (Value)
open Settings (Setting)

-- ================================================================= kinds

/-- What kind of thing a leaf is. -/
inductive Kind where
  | address
  | path
  | size
  | count
  | flag
  /-- A flag that may be missing. -/
  | choice
  | text
  | format
  | stream
deriving DecidableEq

namespace Kind

/-- The values of a kind. -/
abbrev Value : Kind → Type
  | address => Net.Address
  | path => Option String
  | size | count => Nat
  | flag => Bool
  | choice => Option Bool
  | text => String
  | format => Log.Format
  | stream => Log.Stream

instance : (k : Kind) → DecidableEq k.Value
  | address => inferInstanceAs (DecidableEq Net.Address)
  | path => inferInstanceAs (DecidableEq (Option String))
  | size | count => inferInstanceAs (DecidableEq Nat)
  | flag => inferInstanceAs (DecidableEq Bool)
  | choice => inferInstanceAs (DecidableEq (Option Bool))
  | text => inferInstanceAs (DecidableEq String)
  | format => inferInstanceAs (DecidableEq Log.Format)
  | stream => inferInstanceAs (DecidableEq Log.Stream)

/-- The shape of a kind in a document. -/
def shape : Kind → Shape
  | address => .address
  | path => .optional .path
  | size => .size
  | count => .count
  | flag => .boolean
  | choice => .optional .boolean
  | text => .text
  | format => .choice "Format" (Log.Format.all.map Log.Format.name)
  | stream => .choice "WriterConfig" (Log.Stream.all.map Log.Stream.name)

/-- The value that a document of the shape stands for. -/
def ofValue : (k : Kind) → Json.Value → Option k.Value
  | address, v => v.text?.bind Net.Address.ofText?
  | path, v => some v.text?
  | size, v | count, v => v.natural?
  | flag, v => v.bool?
  | choice, v => some v.bool?
  | text, v => v.text?
  | format, v => v.text?.bind Log.Format.ofName?
  | stream, v => v.text?.bind Log.Stream.ofName?

/-- The value that a setting without parts is read as. -/
def read (k : Kind) : Setting → Option k.Value
  | .scalar source value =>
    (Settings.ofSetting k.shape (.scalar source value)).toOption.bind k.ofValue
  | _ => none

/-- Nothing that is a leaf has members. -/
theorem isPlain (k : Kind) : k.shape.IsPlain := by
  cases k <;> trivial

theorem read_of_isScalar {t : Setting} (ht : t.IsScalar) (k : Kind) :
    k.read t = (Settings.ofSetting k.shape t).toOption.bind k.ofValue := by
  obtain ⟨source, value, rfl⟩ := ht
  rfl

/-- What is read as a value may stand at a leaf. -/
theorem stands_of_read {k : Kind} {t : Setting} {x : k.Value}
    (h : k.read t = some x) : Settings.Stands k.shape t := by
  cases t with
  | scalar source value =>
      obtain ⟨v, hv, -⟩ := Option.bind_eq_some_iff.1 h
      refine .inr ⟨k.isPlain, ⟨source, value, rfl⟩, v, ?_⟩
      cases hread : Settings.ofSetting k.shape (.scalar source value) with
      | ok w =>
          rw [hread] at hv
          cases hv
          rfl
      | error p =>
          rw [hread] at hv
          cases hv
  | list | table => cases h

end Kind

-- ================================================================ leaves

/-- The things in a configuration that have no parts. -/
inductive Leaf where
  | bind
  | staticDir
  | maxBodyBytes
  | cors
  | sizeLimit
  | nestLimit
  | level
  | format
  | writer
  | time
  | source
  | target
  | threadIds
  | threadNames
  | colors
  | spanList
  | flatten
deriving DecidableEq

namespace Leaf

/-- All leaves. -/
def all : List Leaf :=
  [bind, staticDir, maxBodyBytes, cors, sizeLimit, nestLimit, level, format,
    writer, time, source, target, threadIds, threadNames, colors, spanList,
    flatten]

theorem mem_all (l : Leaf) : l ∈ all := by
  cases l <;> decide

/-- The kind of a leaf. -/
abbrev kind : Leaf → Kind
  | bind => .address
  | staticDir => .path
  | maxBodyBytes | sizeLimit => .size
  | nestLimit => .count
  | level => .text
  | format => .format
  | writer => .stream
  | colors => .choice
  | cors | time | source | target | threadIds | threadNames | spanList
    | flatten => .flag

/-- The path that leads to a leaf in a document. -/
def path : Leaf → List String
  | bind => ["bind"]
  | staticDir => ["static_dir"]
  | maxBodyBytes => ["max_body_bytes"]
  | cors => ["cors"]
  | sizeLimit => ["limits", "size_limit"]
  | nestLimit => ["limits", "nest_limit"]
  | level => ["log", "level"]
  | format => ["log", "format"]
  | writer => ["log", "writer"]
  | time => ["log", "display", "time"]
  | source => ["log", "display", "source"]
  | target => ["log", "display", "target"]
  | threadIds => ["log", "display", "thread_ids"]
  | threadNames => ["log", "display", "thread_names"]
  | colors => ["log", "display", "colors"]
  | spanList => ["log", "display", "span_list"]
  | flatten => ["log", "display", "flatten"]

/-- The variable that sets a leaf: its path in capital letters, with two
underscores between the keys. -/
def variableName (l : Leaf) : String :=
  String.ofList ("REGVIZ_".toList
    ++ (List.intercalate ['_', '_'] (l.path.map String.toList)).map
    Char.toUpper)

/-- What a configuration has at a leaf. -/
def get : (l : Leaf) → Config → l.kind.Value
  | bind, c => c.bind
  | staticDir, c => c.staticDir
  | maxBodyBytes, c => c.maxBodyBytes
  | cors, c => c.cors
  | sizeLimit, c => c.limits.size
  | nestLimit, c => c.limits.nesting
  | level, c => c.log.level
  | format, c => c.log.format
  | writer, c => c.log.writer
  | time, c => c.log.display.time
  | source, c => c.log.display.source
  | target, c => c.log.display.target
  | threadIds, c => c.log.display.threadIds
  | threadNames, c => c.log.display.threadNames
  | colors, c => c.log.display.colors
  | spanList, c => c.log.display.spanList
  | flatten, c => c.log.display.flatten

/-- A configuration is known by its leaves. -/
theorem ext {c c' : Config} (h : ∀ l : Leaf, l.get c = l.get c') : c = c' := by
  obtain ⟨b, s, m, o, ⟨size, nesting⟩, v, f, w, t, r, g, i, n, k, p, e⟩ := c
  obtain ⟨b', s', m', o', ⟨size', nesting'⟩, v', f', w', t', r', g', i', n',
    k', p', e'⟩ := c'
  obtain rfl : b = b' := h bind
  obtain rfl : s = s' := h staticDir
  obtain rfl : m = m' := h maxBodyBytes
  obtain rfl : o = o' := h cors
  obtain rfl : size = size' := h sizeLimit
  obtain rfl : nesting = nesting' := h nestLimit
  obtain rfl : v = v' := h level
  obtain rfl : f = f' := h format
  obtain rfl : w = w' := h writer
  obtain rfl : t = t' := h time
  obtain rfl : r = r' := h source
  obtain rfl : g = g' := h target
  obtain rfl : i = i' := h threadIds
  obtain rfl : n = n' := h threadNames
  obtain rfl : k = k' := h colors
  obtain rfl : p = p' := h spanList
  obtain rfl : e = e' := h flatten
  rfl

end Leaf

-- ============================================================== documents

section Members

variable (v : Value) (key : String)

/-- A flag that is not there has its default; so it is with texts and
numbers. -/
theorem boolOr_eq (otherwise : Bool) :
    v.boolOr key otherwise = ((v.get? key).bind (·.bool?)).getD otherwise := by
  rw [Value.boolOr]
  cases v.get? key with
  | none => rfl
  | some w => cases w <;> rfl

theorem textOr_eq (otherwise : String) :
    v.textOr key otherwise = ((v.get? key).bind (·.text?)).getD otherwise := by
  rw [Value.textOr]
  cases v.get? key with
  | none => rfl
  | some w => cases w <;> rfl

theorem naturalOr_eq (otherwise : Nat) :
    v.naturalOr key otherwise
      = ((v.get? key).bind (·.natural?)).getD otherwise := by
  rw [Value.naturalOr]
  cases v.get? key with
  | none => rfl
  | some w =>
      cases w with
      | number n => cases n <;> rfl
      | _ => rfl

/-- A member that may be missing is missing by default. -/
theorem bind_eq_getD {α : Type} (o : Option Value) (f : Value → Option α) :
    o.bind f = (o.bind fun w => some (f w)).getD none := by
  cases o <;> rfl

/-- The path of a single key. -/
theorem at?_key : v.at? [key] = v.get? key := by
  rw [Value.at?]
  cases v.get? key <;> rfl

end Members

namespace Leaf

/-- The defaults of a section for the logger, with those of the whole
configuration for the rest. -/
def sectioned (build : Build) : Config :=
  { Config.standard build with log := .standard build }

/-- What counts where a document says nothing: a section of its own has
defaults of its own. -/
def base (build : Build) (v : Value) : Config :=
  if (v.get? "log").isSome then sectioned build else .standard build

/-- At each leaf a document counts, or else the default. -/
theorem get_ofDocument (build : Build) (l : Leaf) (v : Value) :
    l.get (Config.ofDocument build v)
      = ((v.at? l.path).bind l.kind.ofValue).getD (l.get (base build v)) := by
  have hstep (u : Value) (key : String) (path : List String) :
      u.at? (key :: path) = (u.get? key).bind (Value.at? path) := rfl
  cases l with
  | bind =>
      rw [path, at?_key, base]
      split <;> exact congrArg (Option.getD · _) (Option.bind_assoc ..)
  | staticDir =>
      rw [path, at?_key, base]
      split <;> exact bind_eq_getD _ _
  | maxBodyBytes =>
      rw [path, at?_key, base]
      split <;> exact naturalOr_eq v _ _
  | cors =>
      rw [path, at?_key, base]
      split <;> exact boolOr_eq v _ _
  | sizeLimit | nestLimit =>
      rw [path, hstep, base, get, get, Config.ofDocument]
      dsimp only
      cases v.get? "limits" with
      | none => split <;> rfl
      | some w =>
          rw [Option.bind_some, at?_key]
          split <;> exact naturalOr_eq w _ _
  | level | format | writer =>
      rw [path, hstep, base, get, get, Config.ofDocument]
      dsimp only
      cases v.get? "log" with
      | none => rfl
      | some w =>
          rw [Option.bind_some, at?_key]
          first
          | exact textOr_eq w _ _
          | exact congrArg (Option.getD · _) (Option.bind_assoc ..)
  | _ =>
      rw [path, hstep, base, get, get, Config.ofDocument]
      dsimp only
      cases v.get? "log" with
      | none => rfl
      | some w =>
          rw [Option.bind_some, hstep, Option.map_some, Option.getD_some,
            Log.Config.ofDocument]
          dsimp only
          cases w.get? "display" with
          | none => rfl
          | some d =>
              rw [Option.bind_some, at?_key]
              first
              | exact boolOr_eq d _ _
              | exact bind_eq_getD _ _

end Leaf

-- ================================================================= trees

/-- The paths of the sections of a configuration. -/
def sections : List (List String) :=
  [[], ["limits"], ["log"], ["log", "display"]]

/-- The shape of a configuration has at each leaf that of its kind. -/
theorem Leaf.at?_path (l : Leaf) :
    Config.shape.at? l.path = some l.kind.shape := by
  cases l <;> rfl

/-- It has a section at the path of each section. -/
theorem exists_section {path : List String} (h : path ∈ sections) :
    ∃ sub, Config.shape.at? path = some sub ∧ sub.IsSection := by
  simp only [sections, List.mem_cons, List.not_mem_nil, or_false] at h
  rcases h with rfl | rfl | rfl | rfl <;> exact ⟨_, rfl, rfl⟩

theorem mem_of_shape? {key : String} {s : Shape} :
    ∀ {members : List (String × Shape)},
    (Fields.ofList members).shape? key = some s → (key, s) ∈ members
  | [], h => by cases h
  | (name, shape) :: rest, h => by
      rw [Fields.ofList, Fields.shape?] at h
      split at h
      · next hname =>
          cases h
          exact hname ▸ List.mem_cons_self
      · exact List.mem_cons_of_mem _ (mem_of_shape? h)

/-- The paths of a record lead to itself or through one of its members. -/
theorem at?_record {name : String} {filled : Bool}
    {members : List (String × Shape)} {path : List String} {sub : Shape}
    (h : (Shape.record name filled (.ofList members)).at? path = some sub) :
    (path = [] ∧ sub = .record name filled (.ofList members)) ∨
      ∃ m ∈ members, ∃ rest, path = m.1 :: rest ∧ m.2.at? rest = some sub := by
  cases path with
  | nil =>
      cases h
      exact .inl ⟨rfl, rfl⟩
  | cons key rest =>
      rw [Shape.at?] at h
      obtain ⟨s, hs, hrest⟩ := Option.bind_eq_some_iff.1 h
      exact .inr ⟨(key, s), mem_of_shape? hs, rest, rfl, hrest⟩

/-- Along each path a configuration has a section or a leaf. -/
theorem section_or_leaf {path : List String} {sub : Shape}
    (h : Config.shape.at? path = some sub) :
    (path ∈ sections ∧ sub.IsSection) ∨ ∃ l : Leaf, path = l.path
      ∧ sub = l.kind.shape := by
  have hleaf (l : Leaf) (above : List String) {rest : List String}
    (hpath : l.path = above ++ rest) {keys : List String}
    (h : l.kind.shape.at? keys = some sub) :
      ∃ l : Leaf, above ++ rest ++ keys = l.path ∧ sub = l.kind.shape := by
    obtain ⟨rfl, rfl⟩ := Shape.at?_plain l.kind.isPlain h
    exact ⟨l, by rw [List.append_nil, hpath], rfl⟩
  rcases at?_record h with ⟨rfl, rfl⟩ | ⟨m, hm, path, rfl, hpath⟩
  · exact .inl ⟨by decide, rfl⟩
  simp only [List.mem_cons, List.not_mem_nil, or_false] at hm
  rcases hm with rfl | rfl | rfl | rfl | rfl | rfl
  · exact .inr (hleaf .bind [] rfl hpath)
  · exact .inr (hleaf .staticDir [] rfl hpath)
  · exact .inr (hleaf .maxBodyBytes [] rfl hpath)
  · exact .inr (hleaf .cors [] rfl hpath)
  · rcases at?_record hpath with ⟨rfl, rfl⟩ | ⟨m, hm, path, rfl, hpath'⟩
    · exact .inl ⟨by decide, rfl⟩
    simp only [List.mem_cons, List.not_mem_nil, or_false] at hm
    rcases hm with rfl | rfl
    · exact .inr (hleaf .sizeLimit ["limits"] rfl hpath')
    · exact .inr (hleaf .nestLimit ["limits"] rfl hpath')
  · rcases at?_record hpath with ⟨rfl, rfl⟩ | ⟨m, hm, path, rfl, hpath'⟩
    · exact .inl ⟨by decide, rfl⟩
    simp only [List.mem_cons, List.not_mem_nil, or_false] at hm
    rcases hm with rfl | rfl | rfl | rfl
    · exact .inr (hleaf .level ["log"] rfl hpath')
    · exact .inr (hleaf .format ["log"] rfl hpath')
    · exact .inr (hleaf .writer ["log"] rfl hpath')
    · rcases at?_record hpath' with ⟨rfl, rfl⟩ | ⟨m, hm, path, rfl, hpath''⟩
      · exact .inl ⟨by decide, rfl⟩
      simp only [List.mem_cons, List.not_mem_nil, or_false] at hm
      rcases hm with rfl | rfl | rfl | rfl | rfl | rfl | rfl | rfl
      · exact .inr (hleaf .time ["log", "display"] rfl hpath'')
      · exact .inr (hleaf .source ["log", "display"] rfl hpath'')
      · exact .inr (hleaf .target ["log", "display"] rfl hpath'')
      · exact .inr (hleaf .threadIds ["log", "display"] rfl hpath'')
      · exact .inr (hleaf .threadNames ["log", "display"] rfl hpath'')
      · exact .inr (hleaf .colors ["log", "display"] rfl hpath'')
      · exact .inr (hleaf .spanList ["log", "display"] rfl hpath'')
      · exact .inr (hleaf .flatten ["log", "display"] rfl hpath'')

end PatternCheck.Server
