import PatternCheck.Proofs.Server.Loaded

/-
The two ways of filling in what a configuration leaves out. A document that
is decoded by itself has the defaults of its sections; a file with the same
contents is merged over the defaults of the whole configuration. Most
leaves have the same default in both, but the whole configuration has a
logger of its own, and which one depends on how the program is built
(`Leaf.apart`). What a section for the logger leaves out there means the
one default by itself and the other in a file, and this is the only
difference between the two ways (`decoded_loaded`).
-/

namespace PatternCheck.Server

open Json (Value)
open Log (Environment)
open Settings (Setting touches)

variable {extra : Prop}

-- ========================================================== the same contents

/-- Whether a file has the contents of a document: the same values, in
tables with the same keys. -/
inductive SameContents : Toml.Value → Value → Prop
  | string (s : String) : SameContents (.string s) (.string s)
  | boolean (b : Bool) : SameContents (.boolean b) (.bool b)
  | natural (n : Nat) : SameContents (.integer n) (.number (.natural n))
  | negative (n : Nat) : SameContents (.integer (-n)) (.number (.negative n))
  | float (isNegative : Bool) (s : Nat) (e : Int) :
    SameContents (.float (.ofDecimal isNegative s e))
      (.number (.decimal isNegative s e))
  | array {items : List Toml.Value} {items' : List Value} :
    items.length = items'.length →
    (∀ (i : Nat) v w, items[i]? = some v → items'[i]? = some w →
      SameContents v w) →
    SameContents (.array items) (.array items')
  | table {members : List (String × Toml.Value)}
    {members' : List (String × Value)} :
    (∀ key, ((Toml.Value.table members).get? key).isSome
      = ((Value.object members').get? key).isSome) →
    (∀ key v w, (Toml.Value.table members).get? key = some v →
      (Value.object members').get? key = some w → SameContents v w) →
    SameContents (.table members) (.object members')

namespace SameContents

variable {doc : Toml.Value} {v : Value}

/-- Under each key there is something in both or in neither. -/
theorem get? (h : SameContents doc v) (key : String) :
    (doc.get? key = none ∧ v.get? key = none) ∨
      ∃ u w, doc.get? key = some u ∧ v.get? key = some w ∧
        SameContents u w := by
  cases h with
  | @table members members' hkeys hmembers =>
      have hkey := hkeys key
      cases hu : (Toml.Value.table members).get? key with
      | none =>
          rw [hu] at hkey
          exact .inl ⟨rfl, Option.isNone_iff_eq_none.1
            (by simpa using hkey.symm)⟩
      | some u =>
          rw [hu] at hkey
          obtain ⟨w, hw⟩ := Option.isSome_iff_exists.1 hkey.symm
          exact .inr ⟨u, w, rfl, hw, hmembers key u w hu hw⟩
  | _ => exact .inl ⟨rfl, rfl⟩

/-- So there is at the end of each path. -/
theorem at? (h : SameContents doc v) (path : List String) :
    (doc.at? path = none ∧ v.at? path = none) ∨
      ∃ u w, doc.at? path = some u ∧ v.at? path = some w ∧
        SameContents u w := by
  induction path generalizing doc v with
  | nil => exact .inr ⟨doc, v, rfl, rfl, h⟩
  | cons key path ih =>
      rw [Toml.Value.at?, Value.at?]
      rcases h.get? key with ⟨hu, hw⟩ | ⟨u, w, hu, hw, hsame⟩
      · rw [hu, hw]
        exact .inl ⟨rfl, rfl⟩
      · rw [hu, hw]
        exact ih hsame

/-- Members with the same keys, each with the same contents, are tables with
the same contents. -/
theorem of_parts {parts : List (String × Toml.Value × Value)}
    (hnodup : (parts.map (·.1)).Nodup)
    (h : ∀ p ∈ parts, SameContents p.2.1 p.2.2) :
    SameContents (.table (parts.map fun p => (p.1, p.2.1)))
      (.object (parts.map fun p => (p.1, p.2.2))) := by
  have hkeys {α : Type} (f : Toml.Value × Value → α) :
      ((parts.map fun p => (p.1, f p.2)).map (·.1)).Nodup := by
    rwa [List.map_map]
  have htable (key : String) :
      (Toml.Value.table (parts.map fun p => (p.1, p.2.1))).get? key
        = (parts.lookup key).map (·.1) := by
    rw [Toml.Value.get?, ← Keyed.lookup_ofList,
      Keyed.lookup_ofList_of_nodup (hkeys Prod.fst), Keyed.lookup_map Prod.fst]
  have hobject (key : String) :
      (Value.object (parts.map fun p => (p.1, p.2.2))).get? key
        = (parts.lookup key).map (·.2) := by
    rw [Value.get?, Value.lookup_of_nodup (hkeys Prod.snd),
      Keyed.lookup_map Prod.snd]
  refine .table (fun key => ?_) fun key v w hv hw => ?_
  · rw [htable, hobject, Option.isSome_map, Option.isSome_map]
  · rw [htable] at hv
    obtain ⟨p, hp, rfl⟩ := Option.map_eq_some_iff.1 hv
    rw [hobject, hp] at hw
    cases hw
    exact h _ (Keyed.mem_of_lookup hp)

end SameContents

-- ================================================================== leaves

section Kinds

variable {k : Kind} {w : Json.Value}

/-- A document that fits the shape of a kind stands for a value of it. -/
theorem Kind.isSome_ofValue (h : k.shape.Fits extra w) :
    (k.ofValue w).isSome := by
  cases k with
  | address =>
      cases h with
      | address h => exact h
  | path | choice => rfl
  | size | count | flag | text =>
      cases h
      rfl
  | format =>
      cases h with
      | choice h =>
          obtain ⟨f, -, rfl⟩ := List.mem_map.1 h
          rw [ofValue, Value.text?, Option.bind_some, Log.Format.ofName?_name]
          rfl
  | stream =>
      cases h with
      | choice h =>
          obtain ⟨f, -, rfl⟩ := List.mem_map.1 h
          rw [ofValue, Value.text?, Option.bind_some, Log.Stream.ofName?_name]
          rfl

/-- As a setting it is read as this value. -/
theorem Kind.read_document (h : k.shape.Fits extra w)
    (source : Settings.Source) :
    k.read (.ofDocument source w) = k.ofValue w := by
  obtain ⟨x, -, hx, hplain⟩ := Settings.readers_agree source k.shape h
  obtain rfl : x = w := hplain k.isPlain
  rw [read_of_isScalar (Settings.isScalar_of_fits source k.shape k.isPlain h),
    hx]
  rfl

/-- In a file with the same contents the same value stands. -/
theorem Kind.ofToml?_same {v : Toml.Value} (h : k.shape.Fits extra w)
    (hsame : SameContents v w) : k.ofToml? v = k.ofValue w := by
  cases k with
  | size | count =>
      cases h with
      | natural h =>
          cases hsame
          rw [ofToml?, if_pos (by omega)]
          rfl
  | path | choice =>
      cases h with
      | absent => cases hsame
      | present h =>
          cases h
          cases hsame
          rfl
  | _ =>
      cases h
      cases hsame
      rfl

end Kinds

-- =============================================================== documents

/-- What a document gives to a leaf. -/
def Leaf.given (l : Leaf) (v : Value) : Option l.kind.Value :=
  (v.at? l.path).bind l.kind.ofValue

section Documents

variable {v : Value} (h : Config.shape.Fits extra v)

include h

/-- As settings, a document that fits is a layer. -/
theorem isLayer_document (source : Settings.Source) :
    IsLayer (.ofDocument source v) where
  suits := Settings.suits_document isFilled_shape h source
  reads l u hu := by
    obtain ⟨hat, hfits⟩ := Settings.at?_document source l.path h l.at?_path
    rw [hat] at hu
    obtain ⟨w, hw, rfl⟩ := Option.map_eq_some_iff.1 hu
    rw [Kind.read_document (hfits w hw)]
    exact Kind.isSome_ofValue (hfits w hw)

theorem held_document (source : Settings.Source) (l : Leaf) :
    l.held (.ofDocument source v) = l.given v := by
  obtain ⟨hat, hfits⟩ := Settings.at?_document source l.path h l.at?_path
  rw [Leaf.held, hat, Leaf.given]
  cases hw : v.at? l.path with
  | none => rfl
  | some w => exact Kind.read_document (hfits w hw) source

/-- By itself, a document has at each leaf what it gives to it, or else the
default of the section. -/
theorem decode (build : Build) : ∃ w, Config.shape.ofValue v = .ok w ∧
    ∀ l : Leaf, l.get (.ofDocument build w)
      = (l.given v).getD (l.get (Leaf.base build v)) := by
  obtain ⟨w, hdocument, hsetting, -⟩ :=
    Settings.readers_agree .defaults Config.shape h
  obtain ⟨w', hw', hlog, hleaves⟩ :=
    (isLayer_document h .defaults).configuration build
  obtain rfl : w' = w := Except.ok.inj (hw'.symm.trans hsetting)
  have hshape : Config.shape.at? ["log"] = some Log.Config.shape := rfl
  have hat := (Settings.at?_document .defaults ["log"] h hshape).1
  have hbase : Leaf.base build w' = Leaf.base build v := by
    rw [Leaf.base, hlog, hat, Option.isSome_map, at?_key, Leaf.base]
  refine ⟨w', hdocument, fun l => ?_⟩
  rw [hleaves, held_document h, hbase]

/-- A file with the contents of a document that fits is typed. -/
theorem SameContents.typed {doc : Toml.Value} (hsame : SameContents doc v) :
    Typed doc where
  sections path hpath u hu := by
    obtain ⟨sub, hsub, hsection⟩ := exists_section hpath
    rcases hsame.at? path with ⟨hnone, -⟩ | ⟨u', w, hu', hw, hsame⟩
    · rw [hnone] at hu
      cases hu
    · obtain rfl : u' = u := Option.some.inj (hu'.symm.trans hu)
      have hfits := (Settings.at?_document .defaults path h hsub).2 w hw
      cases hfits with
      | record =>
          cases hsame
          exact ⟨_, rfl⟩
      | _ => exact hsection.elim
  leaves l u hu := by
    rcases hsame.at? l.path with ⟨hnone, -⟩ | ⟨u', w, hu', hw, hsame⟩
    · rw [hnone] at hu
      cases hu
    · obtain rfl : u' = u := Option.some.inj (hu'.symm.trans hu)
      have hfits :=
        (Settings.at?_document .defaults l.path h l.at?_path).2 w hw
      rw [Kind.ofToml?_same hfits hsame]
      exact Kind.isSome_ofValue hfits

/-- It gives the same to each leaf. -/
theorem SameContents.inFile {doc : Toml.Value} (hsame : SameContents doc v)
    (l : Leaf) : l.inFile doc = l.given v := by
  rw [Leaf.inFile, Leaf.given]
  rcases hsame.at? l.path with ⟨hu, hw⟩ | ⟨u, w, hu, hw, hsame⟩
  · rw [hu, hw]
    rfl
  · rw [hu, hw]
    exact Kind.ofToml?_same
      ((Settings.at?_document .defaults l.path h l.at?_path).2 w hw) hsame

end Documents

/-- A text without the mark is read from its beginning. -/
theorem ofText?_ofList {cs : List Char} (mark : cs.head? ≠ some '\uFEFF') :
    Toml.ofText? (String.ofList cs)
      = (Text.Scan.whole (Toml.Draft.lines (cs.length + 1) {}) cs).map fun d =>
        Toml.completeMembers d.members := by
  unfold Toml.ofText?
  rw [String.toList_ofList]
  split
  · next rest => exact absurd rfl mark
  · rfl

-- ============================================================== two defaults

/-- Whether a document has a section for the logger, but nothing at a
leaf. -/
def Leaf.isLeftOut (l : Leaf) (v : Value) : Bool :=
  (v.at? ["log"]).isSome && (v.at? l.path).isNone

/-- What is left out is given no value. -/
theorem given_of_isLeftOut {l : Leaf} {v : Value} (h : l.isLeftOut v = true) :
    l.given v = none := by
  rw [Leaf.isLeftOut, Bool.and_eq_true, Option.isNone_iff_eq_none] at h
  rw [Leaf.given, h.2]
  rfl

/-- The leaves at which a section for the logger has another default than
the whole configuration. -/
def Leaf.apart : Build → List Leaf
  | .debug => [level, format]
  | .release => [level, format, writer, target, colors, spanList]

/-- They are all such leaves, and no other leaf is one. -/
theorem Leaf.mem_apart_iff {build : Build} {l : Leaf} :
    l ∈ apart build ↔ l.get (sectioned build) ≠ l.get (.standard build) := by
  cases build <;> cases l <;> decide

/-- By itself, a document means what it means over the defaults of the
whole configuration, but for what is left out of the section for the
logger. -/
theorem getD_base {v : Value} (h : Config.shape.Fits extra v) (build : Build)
    (l : Leaf) :
    (l.given v).getD (l.get (Leaf.base build v))
      = if l.isLeftOut v then l.get (Leaf.sectioned build)
        else (l.given v).getD (l.get (.standard build)) := by
  have hbase : Leaf.base build v
      = if (v.at? ["log"]).isSome then Leaf.sectioned build
        else .standard build := by
    rw [at?_key]
    rfl
  cases hw : v.at? l.path with
  | none =>
      rw [hbase, Leaf.isLeftOut, Leaf.given, hw]
      cases (v.at? ["log"]).isSome <;> rfl
  | some w =>
      have hfits :=
        (Settings.at?_document .defaults l.path h l.at?_path).2 w hw
      obtain ⟨x, hx⟩ := Option.isSome_iff_exists.1 (Kind.isSome_ofValue hfits)
      rw [Leaf.isLeftOut, Leaf.given, hw, Option.isNone_some, Bool.and_false,
        Option.bind_some, hx]
      rfl

/-- A document that fits is decoded, and a file with its contents is
loaded, where nothing in the environment is about a configuration. What is
loaded has the values of the document over the defaults of the whole
configuration. What is decoded is the same, except that a section for the
logger has its own default at each leaf that it leaves out and that has
another default in the whole configuration; so the two are the same just
where no such leaf is left out. -/
theorem decoded_loaded (build : Build) {st : Storage} {env : Environment}
    {file : Option String} {v : Value} {doc : Toml.Value}
    (hfits : Config.shape.Fits True v) (hsame : SameContents doc v)
    (hfile : Holds st file doc)
    (henv : ∀ w ∈ env, touches Config.shape w.1 = false) :
    ∃ loaded decoded : Config, Config.load build st env file = .ok loaded
      ∧ (Config.shape.ofValue v).map (Config.ofDocument build) = .ok decoded
      ∧ (∀ l : Leaf, l.get loaded = (l.given v).getD (l.get (.standard build)))
      ∧ (∀ l : Leaf, l.get decoded
        = if l ∈ Leaf.apart build ∧ l.isLeftOut v then
            l.get (Leaf.sectioned build)
          else l.get loaded)
      ∧ (decoded = loaded ↔
        ∀ l ∈ Leaf.apart build, l.isLeftOut v = false) := by
  have hnone : env.filter (fun w => touches Config.shape w.1) = [] :=
    List.filter_eq_nil_iff.2 fun w hw => by simp [henv w hw]
  have hempty : TypedEnvironment [] := ⟨List.nodup_nil, by simp, by simp⟩
  obtain ⟨loaded, hload, hloaded⟩ :=
    load_layers build hfile (hsame.typed hfits) hempty
  have hleaf (l : Leaf) :
      l.get loaded = (l.given v).getD (l.get (.standard build)) := by
    rw [hloaded, ← hsame.inFile hfits]
    rfl
  have hout {l : Leaf} (h : l.isLeftOut v = true) :
      l.get loaded = l.get (.standard build) := by
    rw [hleaf, given_of_isLeftOut h, Option.getD_none]
  obtain ⟨w, hdecode, hdecoded⟩ := decode hfits build
  have hdecoded (l : Leaf) : l.get (.ofDocument build w)
      = if l ∈ Leaf.apart build ∧ l.isLeftOut v then
          l.get (Leaf.sectioned build)
        else l.get loaded := by
    rw [hdecoded, getD_base hfits, ← hleaf]
    by_cases hl : l ∈ Leaf.apart build
    · simp only [hl, true_and]
    · -- the defaults are the same here
      have hdefault := Decidable.not_not.1 (mt Leaf.mem_apart_iff.2 hl)
      simp only [hl, false_and, if_false]
      split
      · next h => rw [hout h, hdefault]
      · rfl
  refine ⟨loaded, .ofDocument build w, by rw [load_touching, hnone, hload],
    by rw [hdecode]; rfl, hleaf, hdecoded, fun hsame l hl => ?_,
    fun hgiven => Leaf.ext fun l => ?_⟩
  · refine Bool.eq_false_iff.2 fun h => Leaf.mem_apart_iff.1 hl ?_
    have hl' := hdecoded l
    rw [if_pos ⟨hl, h⟩, hsame, hout h] at hl'
    exact hl'.symm
  · rw [hdecoded, if_neg]
    rintro ⟨hl, h⟩
    exact Bool.false_ne_true ((hgiven l hl).symm.trans h)

/-- For service, a section with a filter and a format still has other
defaults by itself: of the stream, and of three things that lines show. -/
theorem decoded_loaded_release :
    let v : Value :=
      .object [("cors", .bool true),
        ("log", .object [("level", .string "warn"),
          ("format", .string "json")])]
    let text := "cors = true\n[log]\nlevel = 'warn'\nformat = 'json'"
    let st : Storage :=
      { file? := fun _ => some ⟨Text.Utf8.encode text.toList, 0⟩ }
    let loaded : Config :=
      { Config.standard .release with
        cors := true
        log := { Log.Config.production .release with level := "warn" } }
    Config.load .release st [("REGVIZ_LOG", "off")] (some "c.toml")
      = .ok loaded
    ∧ (Config.shape.ofValue v).map (Config.ofDocument .release)
      = .ok { loaded with
          log :=
            { Log.Config.standard .release with
              level := "warn", format := .json } } := by
  intro v text st loaded
  have hlog : Log.Config.shape.Fits True
      (.object [("level", .string "warn"), ("format", .string "json")]) := by
    refine .record (by decide) (by simp) fun m hm => ?_
    refine Settings.memberFits_of_shape? (fun s hs => ?_) fun _ => trivial
    rcases List.mem_cons.1 hm with rfl | hm
    · cases hs
      exact .text "warn"
    · obtain rfl := List.mem_singleton.1 hm
      cases hs
      exact .choice (by decide)
  have hfits : Config.shape.Fits True v := by
    refine .record (by decide) (by simp) fun m hm => ?_
    refine Settings.memberFits_of_shape? (fun s hs => ?_) fun _ => trivial
    rcases List.mem_cons.1 hm with rfl | hm
    · cases hs
      exact .boolean true
    · obtain rfl := List.mem_singleton.1 hm
      cases hs
      exact hlog
  have hsame : SameContents
      (.table [("cors", .boolean true),
        ("log", .table [("level", .string "warn"),
          ("format", .string "json")])]) v := by
    have hleaves :
        ∀ p ∈ [("level", Toml.Value.string "warn", Value.string "warn"),
          ("format", .string "json", .string "json")],
          SameContents p.2.1 p.2.2 := by
      simpa using ⟨.string "warn", .string "json"⟩
    have hmembers : ∀ p ∈ [("cors", Toml.Value.boolean true, Value.bool true),
        ("log", .table [("level", .string "warn"), ("format", .string "json")],
          .object [("level", .string "warn"), ("format", .string "json")])],
        SameContents p.2.1 p.2.2 := by
      simpa using ⟨.boolean true, .of_parts (by decide) hleaves⟩
    exact .of_parts (by decide) hmembers
  have hfile : Holds st (some "c.toml")
      (.table [("cors", .boolean true),
        ("log", .table [("level", .string "warn"),
          ("format", .string "json")])]) :=
    .named rfl (Text.Utf8.decode?_encode _) (by
      rw [String.ofList_toList]
      exact (ofText?_ofList (by decide)).trans rfl)
  have henv :
      ∀ w ∈ [("REGVIZ_LOG", "off")], touches Config.shape w.1 = false := by
    intro w hw
    obtain rfl := List.mem_singleton.1 hw
    decide +kernel
  obtain ⟨c, d, hload, hdecode, hleaves, hdecoded, -⟩ :=
    decoded_loaded .release hfits hsame hfile henv
  obtain rfl : c = loaded := Leaf.ext fun l =>
    (hleaves l).trans (by cases l <;> decide +kernel)
  refine ⟨hload, hdecode.trans (congrArg Except.ok (Leaf.ext fun l => ?_))⟩
  rw [hdecoded]
  cases l <;> decide +kernel

/-- The two ways do not agree: an empty section for the logger means the
defaults of a logger by itself, and over the defaults of the whole
configuration it means nothing. -/
theorem empty_section_apart :
    let v : Value := .object [("log", .object [])]
    let st : Storage :=
      { file? := fun _ => some ⟨Text.Utf8.encode "[log]\n".toList, 0⟩ }
    Config.shape.Fits True v ∧ SameContents (.table [("log", .table [])]) v
    ∧ Holds st (some "c.toml") (.table [("log", .table [])])
    ∧ Config.load .debug st [] (some "c.toml") = .ok (.standard .debug)
    ∧ (Config.shape.ofValue v).map (Config.ofDocument .debug)
      = .ok (Leaf.sectioned .debug)
    ∧ Config.standard .debug ≠ Leaf.sectioned .debug := by
  intro v st
  have hfits : Config.shape.Fits True v := by
    refine .record (by simp) (by simp) fun m hm => ?_
    obtain rfl := List.mem_singleton.1 hm
    refine Settings.memberFits_of_shape? (fun s hs => ?_) fun _ => trivial
    cases hs
    exact .record (by simp) (by simp) fun m hm => absurd hm List.not_mem_nil
  have hempty : SameContents (.table []) (.object []) :=
    .table (fun _ => rfl) fun _ _ _ hv _ => by cases hv
  have hmembers : ∀ p ∈ [("log", Toml.Value.table [], Value.object [])],
      SameContents p.2.1 p.2.2 := by
    simpa using hempty
  have hsame : SameContents (.table [("log", .table [])]) v :=
    .of_parts (by simp) hmembers
  have hfile : Holds st (some "c.toml") (.table [("log", .table [])]) :=
    .named rfl (Text.Utf8.decode?_encode _) (by
      rw [String.ofList_toList]
      exact (ofText?_ofList (by decide)).trans rfl)
  obtain ⟨c, hload, hleaves⟩ := load_layers .debug hfile (by decide +kernel)
    (⟨List.nodup_nil, by simp, by simp⟩ : TypedEnvironment [])
  obtain rfl : c = .standard .debug := Leaf.ext fun l =>
    (hleaves l).trans (by cases l <;> decide +kernel)
  exact ⟨hfits, hsame, hfile, hload, by rfl, by decide⟩

end PatternCheck.Server
