import PatternCheck.Proofs.Server.Layers

/-
What a file says about a configuration. A file is typed if it has tables
where a configuration has sections and, at each leaf that it mentions, a
value of the kind of that leaf (`Typed`); what else it has, and how its
tables are arranged, does not matter. As settings, such a file is a layer,
and each of its leaves is read as the value that stands there.
-/

namespace PatternCheck

-- ================================================================ tables

namespace Toml.Value

/-- Whether a value is a table. -/
def isTable : Value → Bool
  | table _ => true
  | _ => false

/-- A table is a table, and not a list of tables. -/
theorem isTable_iff {v : Value} :
    v.isTable = true ↔ ∃ members, v = table members := by
  cases v <;> simp [isTable]

/-- The member of a table with a key: of several the last one. -/
def get? (key : String) : Value → Option Value
  | table members => members.reverse.lookup key
  | _ => none

/-- The value at the end of a path. -/
def at? : List String → Value → Option Value
  | [], v => some v
  | key :: path, v => (v.get? key).bind (at? path)

end Toml.Value

namespace Settings.Setting

/-- A member of a file is the member of its settings. -/
theorem member?_file (source : Source) (v : Toml.Value) (key : String) :
    (ofToml source v).member? key = (v.get? key).map (ofToml source) := by
  cases v with
  | table members => rw [member?_ofToml, Keyed.lookup_ofList, Toml.Value.get?]
  | _ => rw [ofToml]; rfl

/-- Along paths a file has what it has as settings. -/
theorem at?_file (source : Source) : ∀ (path : List String) (v : Toml.Value),
    (ofToml source v).at? path = (v.at? path).map (ofToml source)
  | [], _ => rfl
  | key :: path, v => by
      rw [at?, member?_file, Toml.Value.at?]
      cases v.get? key with
      | none => rfl
      | some u => exact at?_file source path u

end Settings.Setting

namespace Server

open Settings (Setting Source)

-- ================================================================= values

/-- The value of a kind that stands in a file. -/
def Kind.ofToml? : (k : Kind) → Toml.Value → Option k.Value
  | address, .string s => Net.Address.ofText? s
  | path, .string s => some (some s)
  | size, .integer i => if 0 ≤ i ∧ i < UInt64.size then some i.toNat else none
  | count, .integer i => if 0 ≤ i ∧ i < UInt32.size then some i.toNat else none
  | flag, .boolean b => some b
  | choice, .boolean b => some (some b)
  | text, .string s => some s
  | format, .string s => Log.Format.ofName? s
  | stream, .string s => Log.Stream.ofName? s
  | _, _ => none

/-- A number of a file is read if it is natural and below the bound. -/
theorem natural_signed {source : Source} {name : String} {bound : Nat}
    {i : Int} (h : 0 ≤ i ∧ i < bound) :
    (Setting.scalar source (.signed i)).natural name bound
      = .ok (.ofNat i.toNat) := by
  rw [Setting.natural]
  dsimp only
  rw [if_neg (by omega), if_pos (by omega)]

theorem choice_text {source : Source} {name : String} {names : List String}
    {s : String} (h : s ∈ names) :
    (Setting.scalar source (.text s)).choice name names = .ok (.string s) := by
  rw [Setting.choice]
  dsimp only
  rw [Shape.choice?, if_pos h]

/-- A name that is that of a format is one of those allowed. -/
theorem name_of_format {s : String} {f : Log.Format}
    (h : Log.Format.ofName? s = some f) :
    s ∈ Log.Format.all.map Log.Format.name := by
  rw [Log.Format.ofName?] at h
  exact List.mem_map.2
    ⟨f, List.mem_of_find?_eq_some h, by simpa using List.find?_some h⟩

theorem name_of_stream {s : String} {f : Log.Stream}
    (h : Log.Stream.ofName? s = some f) :
    s ∈ Log.Stream.all.map Log.Stream.name := by
  rw [Log.Stream.ofName?] at h
  exact List.mem_map.2
    ⟨f, List.mem_of_find?_eq_some h, by simpa using List.find?_some h⟩

/-- A value of a kind is read as such. -/
theorem Kind.read_file {k : Kind} {v : Toml.Value} {x : k.Value}
    (h : k.ofToml? v = some x) (source : Source) :
    k.read (.ofToml source v) = some x := by
  cases k with
  | address =>
      cases v with
      | string s =>
          rw [ofToml?] at h
          rw [Setting.ofToml, read, shape, Settings.ofSetting,
            Setting.textThat]
          simp only [Setting.text?, Shape.address?, h]
          exact h
      | _ => cases h
  | path | text | flag | choice => cases v <;> exact h
  | size | count =>
      cases v with
      | integer i =>
          rw [ofToml?] at h
          split at h
          · next hi =>
              rw [Setting.ofToml, read, shape]
              simp only [Shape.size, Shape.count, Settings.ofSetting,
                natural_signed hi]
              exact h
          · cases h
      | _ => cases h
  | format =>
      cases v with
      | string s =>
          rw [Setting.ofToml, read, shape, Settings.ofSetting,
            choice_text (name_of_format h)]
          exact h
      | _ => cases h
  | stream =>
      cases v with
      | string s =>
          rw [Setting.ofToml, read, shape, Settings.ofSetting,
            choice_text (name_of_stream h)]
          exact h
      | _ => cases h

-- ================================================================== files

/-- Whether a file gives tables to the sections of a configuration and to
its leaves values of their kinds, as far as it mentions them. -/
structure Typed (doc : Toml.Value) : Prop where
  sections : ∀ path ∈ Server.sections, ∀ v ∈ doc.at? path, ∃ members, v
    = .table members
  leaves : ∀ l : Leaf, ∀ v ∈ doc.at? l.path, (l.kind.ofToml? v).isSome

/-- It can be computed whether a file is typed. -/
theorem typed_iff {doc : Toml.Value} : Typed doc ↔
    ((Server.sections.all fun path => (doc.at? path).all Toml.Value.isTable)
      && Leaf.all.all fun l => (doc.at? l.path).all fun v =>
        (l.kind.ofToml? v).isSome) = true := by
  simp only [Bool.and_eq_true, List.all_eq_true, Option.all_eq_true,
    Toml.Value.isTable_iff]
  constructor
  · intro h
    exact ⟨h.sections, fun l _ => h.leaves l⟩
  · rintro ⟨hsections, hleaves⟩
    exact ⟨hsections, fun l => hleaves l l.mem_all⟩

instance (doc : Toml.Value) : Decidable (Typed doc) :=
  decidable_of_iff _ typed_iff.symm

/-- What a file gives to a leaf. -/
def Leaf.inFile (l : Leaf) (doc : Toml.Value) : Option l.kind.Value :=
  (doc.at? l.path).bind l.kind.ofToml?

namespace Typed

variable {doc : Toml.Value} (h : Typed doc) (source : Source)

include h

/-- As settings, a typed file is a layer. -/
theorem isLayer : IsLayer (.ofToml source doc) where
  suits path sub hsub u hu := by
    rw [Setting.at?_file] at hu
    obtain ⟨v, hv, rfl⟩ := Option.map_eq_some_iff.1 hu
    rcases section_or_leaf hsub with ⟨hpath, hsection⟩ | ⟨l, rfl, rfl⟩
    · obtain ⟨members, rfl⟩ := h.sections path hpath v hv
      exact .inl ⟨hsection, source, _, by
        rw [Setting.ofToml], Keyed.ordered_ofList _⟩
    · obtain ⟨x, hx⟩ := Option.isSome_iff_exists.1 (h.leaves l v hv)
      exact Kind.stands_of_read (Kind.read_file hx source)
  reads l u hu := by
    rw [Setting.at?_file] at hu
    obtain ⟨v, hv, rfl⟩ := Option.map_eq_some_iff.1 hu
    obtain ⟨x, hx⟩ := Option.isSome_iff_exists.1 (h.leaves l v hv)
    rw [Kind.read_file hx source]
    rfl

/-- It has at each leaf what it gives to it. -/
theorem held (l : Leaf) : l.held (.ofToml source doc) = l.inFile doc := by
  rw [Leaf.held, Setting.at?_file, Leaf.inFile]
  cases hv : doc.at? l.path with
  | none => rfl
  | some v =>
      obtain ⟨x, hx⟩ := Option.isSome_iff_exists.1 (h.leaves l v hv)
      rw [Option.map_some, Option.bind_some, Option.bind_some, hx]
      exact Kind.read_file hx source

end Typed

end Server

end PatternCheck
