import PatternCheck.Proofs.Server.Layers

/-
What the environment says about a configuration. Each leaf has a variable,
whose name may be written in letters of either case. Variables with other
names may be there as well, as long as they are about nothing in a
configuration; among them are those that have a meaning of their own, for
the logger and for the program (`Foreign`). Where each of the variables
that count gives a value to a leaf, and no two of them to the same one, the
environment is a layer.
-/

namespace PatternCheck.Server

open Log (Environment)
open Settings
  (Setting pathOf touches ofVariable ofEnvironment keysOf variablePrefix)

-- ================================================================== names

section Case

variable {c : Char}

/-- Whether a letter is a capital one. -/
def IsCapital (c : Char) : Prop := 'A'.val ≤ c.val ∧ c.val ≤ 'Z'.val

/-- Whether a letter is a small one. -/
def IsSmall (c : Char) : Prop := 'a'.val ≤ c.val ∧ c.val ≤ 'z'.val

theorem toLower_val (h : IsCapital c) :
    c.toLower.val = c.val + ('a'.val - 'A'.val) :=
  congrArg Char.val (dif_pos h)

theorem toLower_of_not (h : ¬ IsCapital c) : c.toLower = c := dif_neg h

theorem toUpper_val (h : IsSmall c) :
    c.toUpper.val = c.val + ('A'.val - 'a'.val) := by
  have hcapital : c.toUpper = _ := dif_pos h
  rw [hcapital]

theorem toUpper_of_not (h : ¬ IsSmall c) : c.toUpper = c := dif_neg h

/-- The capital of a small letter is a capital letter, and the small one is
none. -/
theorem IsSmall.capital (h : IsSmall c) :
    IsCapital c.toUpper ∧ ¬ IsCapital c := by
  unfold IsCapital
  rw [toUpper_val h]
  unfold IsSmall at h
  simp [UInt32.le_iff_toNat_le] at h ⊢
  omega

theorem toLower_toUpper (c : Char) : c.toUpper.toLower = c.toLower := by
  by_cases h : IsSmall c
  · rw [toLower_of_not h.capital.2]
    refine Char.ext ?_
    rw [toLower_val h.capital.1, toUpper_val h]
    refine UInt32.toNat_inj.1 ?_
    unfold IsSmall at h
    simp [UInt32.le_iff_toNat_le] at h ⊢
    omega
  · rw [toUpper_of_not h]

/-- The underscore has no case. -/
theorem eq_of_toLower (h : c.toLower = '_') : c = '_' := by
  by_cases hcapital : IsCapital c
  · have hval :=
      congrArg UInt32.toNat
        ((toLower_val hcapital).symm.trans (congrArg Char.val h))
    unfold IsCapital at hcapital
    simp [UInt32.le_iff_toNat_le] at hcapital hval
    omega
  · rwa [toLower_of_not hcapital] at h

end Case

/-- The case of letters does not matter for the path of a variable. -/
theorem pathOf_congr {name other : String}
    (h : name.toList.map Char.toUpper = other.toList.map Char.toUpper) :
    pathOf name = pathOf other := by
  have hlower (cs : List Char) :
      cs.map Char.toLower = (cs.map Char.toUpper).map Char.toLower := by
    rw [List.map_map]
    exact List.map_congr_left fun c _ => (toLower_toUpper c).symm
  rw [pathOf, pathOf, hlower, h, ← hlower]

namespace Leaf

variable {l : Leaf} {name : String}

/-- Whether a name is that of the variable of a leaf, in letters of either
case. -/
def IsNamed (l : Leaf) (name : String) : Prop :=
  name.toList.map Char.toUpper = l.variableName.toList

instance (l : Leaf) (name : String) : Decidable (l.IsNamed name) :=
  inferInstanceAs (Decidable (_ = _))

theorem isNamed_variableName (l : Leaf) : l.IsNamed l.variableName := by
  cases l <;> decide +kernel

/-- The path of a leaf is that of its variable. -/
theorem pathOf_of_isNamed (h : l.IsNamed name) :
    pathOf name = some l.path := by
  have hpath : pathOf l.variableName = some l.path := by
    cases l <;> decide +kernel
  rw [← hpath]
  exact pathOf_congr (h.trans l.isNamed_variableName.symm)

/-- Leaves with the same path are the same. -/
theorem path_injective {l l' : Leaf} (h : l.path = l'.path) : l = l' := by
  cases l <;> cases l' <;> first | rfl | exact absurd h (by decide)

/-- A variable with the path of a leaf is about a configuration. -/
theorem touches_of_path (h : pathOf name = some l.path) :
    touches Config.shape name = true := by
  rw [touches, h]
  cases l <;> rfl

end Leaf

-- =========================================================== environments

/-- Whether the variables of an environment that are about a configuration
each give a value of its kind to a leaf, no two of them to the same one. -/
structure TypedEnvironment (env : Environment) : Prop where
  nodup : (env.map (·.1)).Nodup
  once : ∀ l : Leaf, ∀ v ∈ env, ∀ w ∈ env, l.IsNamed v.1 → l.IsNamed w.1 →
    v.1 = w.1
  typed : ∀ v ∈ env, touches Config.shape v.1 = true →
    ∃ l : Leaf, l.IsNamed v.1
      ∧ (l.kind.read (ofVariable .environment v.2)).isSome

/-- It can be computed whether an environment is typed. -/
theorem typedEnvironment_iff {env : Environment} : TypedEnvironment env ↔
    (env.map (·.1)).Nodup ∧
      (Leaf.all.all fun l => env.all fun v => env.all fun w =>
        decide (l.IsNamed v.1 → l.IsNamed w.1 → v.1 = w.1)) = true ∧
      (env.all fun v =>
        decide (touches Config.shape v.1 = true → Leaf.all.any fun l =>
        decide (l.IsNamed v.1 ∧
          (l.kind.read (ofVariable .environment v.2)).isSome))) = true := by
  simp only [List.all_eq_true, List.any_eq_true, decide_eq_true_eq]
  constructor
  · intro h
    refine ⟨h.nodup, fun l _ => h.once l, fun v hv htouches => ?_⟩
    obtain ⟨l, hl⟩ := h.typed v hv htouches
    exact ⟨l, l.mem_all, hl⟩
  · rintro ⟨hnodup, honce, htyped⟩
    refine ⟨hnodup, fun l => honce l l.mem_all, fun v hv htouches => ?_⟩
    obtain ⟨l, -, hl⟩ := htyped v hv htouches
    exact ⟨l, hl⟩

instance (env : Environment) : Decidable (TypedEnvironment env) :=
  decidable_of_iff _ typedEnvironment_iff.symm

/-- What an environment gives to a leaf. -/
def Leaf.inEnvironment (l : Leaf) (env : Environment) : Option l.kind.Value :=
  (env.find? fun v => l.IsNamed v.1).bind fun v =>
    l.kind.read (ofVariable .environment v.2)

namespace TypedEnvironment

variable {env : Environment} (h : TypedEnvironment env)

include h

/-- The only names with the path of a leaf are those of its variable. -/
theorem named {l : Leaf} {v : String × String} (hv : v ∈ env)
    (hpath : pathOf v.1 = some l.path) :
    l.IsNamed v.1 ∧ (l.kind.read (ofVariable .environment v.2)).isSome := by
  obtain ⟨l', hnamed, hread⟩ := h.typed v hv (Leaf.touches_of_path hpath)
  obtain rfl : l' = l :=
    Leaf.path_injective
      (Option.some.inj ((Leaf.pathOf_of_isNamed hnamed).symm.trans hpath))
  exact ⟨hnamed, hread⟩

theorem gives_or {v : String × String} (hv : v ∈ env) :
    Settings.Gives Config.shape v ∨ touches Config.shape v.1 = false := by
  cases htouches : touches Config.shape v.1 with
  | false => exact .inr rfl
  | true =>
      obtain ⟨l, hnamed, hread⟩ := h.typed v hv htouches
      obtain ⟨x, hx⟩ := Option.isSome_iff_exists.1 hread
      exact .inl ⟨l.path, l.kind.shape, Leaf.pathOf_of_isNamed hnamed,
        l.at?_path, l.kind.isPlain, Kind.stands_of_read hx⟩

/-- There is a name under which the environment has what it gives to a
leaf. -/
theorem exists_name (l : Leaf) : ∃ name, pathOf name = some l.path ∧
    (∀ v ∈ env, pathOf v.1 = some l.path → v.1 = name) ∧
    env.get? name = (env.find? fun v => l.IsNamed v.1).map (·.2) := by
  cases hfind : env.find? fun v => l.IsNamed v.1 with
  | some v =>
      have hv := List.mem_of_find?_eq_some hfind
      have hnamed : l.IsNamed v.1 := by simpa using List.find?_some hfind
      refine ⟨v.1, Leaf.pathOf_of_isNamed hnamed, fun w hw hpath => ?_, ?_⟩
      · exact h.once l w hw v hv (h.named hw hpath).1 hnamed
      · exact Keyed.lookup_of_mem h.nodup hv
  | none =>
      have hno (v : String × String) (hv : v ∈ env) : ¬ l.IsNamed v.1 := by
        simpa using List.find?_eq_none.1 hfind v hv
      refine ⟨l.variableName, Leaf.pathOf_of_isNamed l.isNamed_variableName,
        fun v hv hpath => ?_, ?_⟩
      · exact absurd (h.named hv hpath).1 (hno v hv)
      · refine Option.eq_none_iff_forall_ne_some.2 fun text htext => ?_
        exact hno _ (Keyed.mem_of_lookup htext) l.isNamed_variableName

theorem suits_and_at? (l : Leaf) :
    Settings.Suits Config.shape (ofEnvironment env) ∧
    (ofEnvironment env).at? l.path
      = (env.find? fun v => l.IsNamed v.1).map fun v =>
        ofVariable .environment v.2 := by
  obtain ⟨name, hname, hnames, hget⟩ := h.exists_name l
  have hat :=
    Settings.ofEnvironment_at? isFilled_shape rfl h.nodup
      (fun v hv => h.gives_or hv) l.at?_path l.kind.isPlain hname hnames
  rwa [hget, Option.map_map] at hat

/-- An environment whose variables give values to leaves is a layer. -/
theorem isLayer : IsLayer (ofEnvironment env) where
  suits := (h.suits_and_at? .bind).1
  reads l u hu := by
    rw [(h.suits_and_at? l).2] at hu
    obtain ⟨v, hv, rfl⟩ := Option.map_eq_some_iff.1 hu
    have hnamed : l.IsNamed v.1 := by simpa using List.find?_some hv
    exact (h.named (List.mem_of_find?_eq_some hv)
      (Leaf.pathOf_of_isNamed hnamed)).2

/-- It has at each leaf what it gives to it. -/
theorem held (l : Leaf) :
    l.held (ofEnvironment env) = l.inEnvironment env := by
  rw [Leaf.held, (h.suits_and_at? l).2, Leaf.inEnvironment]
  cases env.find? fun v => l.IsNamed v.1 <;> rfl

end TypedEnvironment

-- ========================================================== other meanings

/-- Names of variables that have a meaning of their own: the filter of the
logger and the file of the configuration, and the parts of the logger that
a variable may override. -/
inductive Foreign : String → Prop
  | filter : Foreign "REGVIZ_LOG"
  | sharedFilter : Foreign "RUST_LOG"
  | file : Foreign "REGVIZ_CONFIG"
  | part {c : Char} {cs : List Char} :
    c ≠ '_' → Foreign (String.ofList ("REGVIZ_LOG_".toList ++ c :: cs))

/-- Along a path whose first key begins with these letters a configuration
has nothing. -/
theorem at?_logPart (k : List Char) :
    Config.shape.at? [String.ofList ("log_".toList ++ k)] = none := by
  refine Option.eq_none_iff_forall_ne_some.2 fun sub hsub => ?_
  have hkey :
      [String.ofList ("log_".toList ++ k)].map (·.toList.take 4)
        = ["log_".toList] := by
    simp
  rcases section_or_leaf hsub with ⟨hpath, -⟩ | ⟨l, hpath, -⟩
  · simp only [sections, List.mem_cons, List.not_mem_nil, or_false] at hpath
    rcases hpath with hpath | hpath | hpath | hpath <;>
      exact absurd hkey (by rw [hpath]; decide +kernel)
  · rw [hpath] at hkey
    cases l <;> exact absurd hkey (by decide +kernel)

/-- The first key of a name goes on from where it is. -/
theorem go_eq_cons (acc cs : List Char) :
    ∃ k ks, keysOf.go acc cs = (acc.reverse ++ k) :: ks := by
  fun_induction keysOf.go acc cs with
  | case1 acc rest ih => exact ⟨[], _, by rw [List.append_nil]⟩
  | case2 acc rest ih => exact ⟨[], _, by rw [List.append_nil]⟩
  | case3 acc c rest _ _ ih =>
      obtain ⟨k, ks, h⟩ := ih
      exact ⟨c :: k, ks, by rw [h]; simp⟩
  | case4 acc => exact ⟨[], [], by rw [List.append_nil]⟩

/-- An underscore without another one after it separates nothing. -/
theorem keysOf_logPart {cs : List Char} (h : cs.head? ≠ some '_') :
    ∃ k ks, keysOf ("log_".toList ++ cs) = ("log_".toList ++ k) :: ks := by
  have hgo :
      keysOf ("log_".toList ++ cs) = keysOf.go "log_".toList.reverse cs := by
    rw [keysOf]
    cases cs with
    | nil => rfl
    | cons c cs =>
        have hc : c ≠ '_' := fun hc => h (congrArg some hc)
        simp [keysOf.go, hc]
  rw [hgo]
  exact go_eq_cons _ cs

/-- Of a name that begins like this, only what comes after is trimmed. -/
theorem trim_logPart (cs : List Char) : ∃ rest, rest <+: cs ∧
    Text.trim (variablePrefix ++ "log_".toList ++ cs)
      = variablePrefix ++ ("log_".toList ++ rest) := by
  refine ⟨(cs.reverse.dropWhile Text.isBlank).reverse, ?_, ?_⟩
  · rw [← List.reverse_suffix, List.reverse_reverse]
    exact List.dropWhile_suffix _
  · have hstart :
        (variablePrefix ++ "log_".toList ++ cs).dropWhile Text.isBlank
          = variablePrefix ++ "log_".toList ++ cs := rfl
    have hend :
        (variablePrefix ++ "log_".toList).reverse.dropWhile Text.isBlank
          = (variablePrefix ++ "log_".toList).reverse := rfl
    rw [Text.trim, hstart, List.reverse_append, List.dropWhile_append, hend]
    split
    · next hnone =>
        rw [List.isEmpty_iff.1 hnone, List.reverse_reverse, List.reverse_nil,
          List.append_nil]
    · rw [List.reverse_append, List.reverse_reverse, List.append_assoc]

/-- Variables with a meaning of their own are about nothing in a
configuration. -/
theorem Foreign.not_touches {name : String} (h : Foreign name) :
    touches Config.shape name = false := by
  cases h with
  | filter | sharedFilter | file => decide +kernel
  | @part c cs hc =>
      have hlower :
          (String.ofList ("REGVIZ_LOG_".toList ++ c :: cs)).toList.map
          Char.toLower
            = variablePrefix ++ "log_".toList
              ++ (c.toLower :: cs.map Char.toLower) := by
        rw [String.toList_ofList, List.map_append]
        rfl
      obtain ⟨rest, hrest, htrim⟩ :=
        trim_logPart (c.toLower :: cs.map Char.toLower)
      have hhead : rest.head? ≠ some '_' := by
        cases rest with
        | nil => exact fun h => by cases h
        | cons d rest =>
            obtain rfl : d = c.toLower := (List.cons_prefix_cons.1 hrest).1
            exact fun h => hc (eq_of_toLower (Option.some.inj h))
      obtain ⟨k, ks, hkeys⟩ := keysOf_logPart hhead
      rw [touches, pathOf]
      dsimp only
      rw [hlower, htrim, if_pos (by simp), List.drop_left, hkeys,
        List.map_cons]
      split
      · next key others hpath =>
          split at hpath
          · cases hpath
          · cases hpath
            rw [at?_logPart]
            rfl
      · rfl

end PatternCheck.Server
