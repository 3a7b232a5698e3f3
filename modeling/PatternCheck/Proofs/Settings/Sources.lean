import PatternCheck.Proofs.Settings.Reading
import PatternCheck.Settings.Variable

/-
Where trees of settings come from. The tables of files and of documents
have their members in order, of each key the last one. A variable gives a
tree with a single path in it, and what the environment gives is the merge
of these trees; so it can be followed one variable at a time, along one
path (`ofEnvironment_at?`). A variable whose path leads to something that a
shape does not know leaves alone all that the shape does know
(`ofSetting_ofEnvironment`).
-/

namespace PatternCheck.Settings

open Log (Environment)

-- ====================================================== files and documents

namespace Setting

theorem ofTomlMembers_eq (source : Source) :
    ∀ members : List (String × Toml.Value),
    ofTomlMembers source members = members.map fun m =>
      (m.1, ofToml source m.2)
  | [] => by rw [ofTomlMembers]; rfl
  | (key, v) :: rest => by
    rw [ofTomlMembers, ofTomlMembers_eq source rest]; rfl

theorem ofMembers_eq (source : Source) :
    ∀ members : List (String × Json.Value),
    ofMembers source members = members.map fun m =>
      (m.1, ofDocument source m.2)
  | [] => by rw [ofMembers]; rfl
  | (key, v) :: rest => by rw [ofMembers, ofMembers_eq source rest]; rfl

/-- A member of a table of a file. -/
theorem member?_ofToml (source : Source) (members : List (String × Toml.Value))
    (key : String) :
    (ofToml source (.table members)).member? key
      = ((Keyed.ofList members).lookup key).map (ofToml source) := by
  rw [ofToml, ofTomlMembers_eq, member?, Keyed.ofList_map, Keyed.lookup_map]

/-- A member of an object. -/
theorem member?_ofDocument (source : Source)
    (members : List (String × Json.Value)) (key : String) :
    (ofDocument source (.object members)).member? key
      = ((Keyed.ofList members).lookup key).map (ofDocument source) := by
  rw [ofDocument, ofMembers_eq, member?, Keyed.ofList_map, Keyed.lookup_map]

end Setting

-- ============================================================== one variable

/-- What stands along a path in the tree of a single path: what is left of
that path, or a part of what is at its end. -/
theorem at?_nested {source : Source} {v u : Setting} :
    ∀ {path keys : List String},
    (nested source path v).at? keys = some u →
      (∃ key rest, path = keys ++ key :: rest ∧
          u = nested source (key :: rest) v) ∨
        ∃ rest, keys = path ++ rest ∧ v.at? rest = some u
  | [], keys, h => .inr ⟨keys, rfl, h⟩
  | key :: path, [], h => by
      cases h
      exact .inl ⟨key, path, rfl, rfl⟩
  | key :: path, k :: keys, h => by
      rw [nested, Setting.at?, Setting.member?, List.lookup_cons] at h
      by_cases hk : k = key
      · subst hk
        rw [beq_self_eq_true] at h
        rcases at?_nested h with ⟨key, rest, rfl, hu⟩ | ⟨rest, rfl, hu⟩
        · exact .inl ⟨key, rest, rfl, hu⟩
        · exact .inr ⟨rest, rfl, hu⟩
      · simp [beq_eq_false_iff_ne.2 hk] at h

theorem at?_nested_self (source : Source) (v : Setting) : ∀ path : List String,
    (nested source path v).at? path = some v
  | [] => rfl
  | key :: path => by
      rw [nested, Setting.at?, Setting.member?, List.lookup_cons,
        beq_self_eq_true]
      exact at?_nested_self source v path

section Nested

variable {s sub : Shape} {path : List String}

/-- A path to a plain thing goes on no further. -/
theorem not_beyond (hpath : s.at? path = some sub) (hplain : sub.IsPlain)
    {key : String} {rest : List String} {s' : Shape} :
    s.at? (path ++ key :: rest) ≠ some s' := by
  intro h
  rw [Shape.at?_append, hpath, Option.bind_some] at h
  cases (Shape.at?_plain hplain h).1

/-- The tree of a path suits a shape if what is at its end can stand there. -/
theorem suits_nested (hs : s.IsFilled) (hpath : s.at? path = some sub)
    (hplain : sub.IsPlain) {v : Setting} (hv : Stands sub v)
    (source : Source) : Suits s (nested source path v) := by
  intro keys s' hs' u hu
  rcases at?_nested hu with ⟨key, rest, rfl, rfl⟩ | ⟨rest, rfl, hend⟩
  · rcases hs keys s' hs' with hsection | hplain'
    · exact .inl ⟨hsection, source, _, rfl, Keyed.ordered_singleton _⟩
    · exact absurd hpath (not_beyond hs' hplain')
  · rw [Shape.at?_append, hpath, Option.bind_some] at hs'
    obtain ⟨rfl, rfl⟩ := Shape.at?_plain hplain hs'
    cases hend
    exact hv

/-- Along the paths of a shape, a tree has nothing of a path that leads
elsewhere. -/
theorem at?_nested_elsewhere {key k : String} {rest keys : List String}
    (hkey : s.at? [key] = none) (hkeys : s.at? (k :: keys) = some sub)
    (v : Setting) (source : Source) :
    (nested source (key :: rest) v).at? (k :: keys) = none := by
  have hne : k ≠ key := by
    rintro rfl
    rw [← List.singleton_append, Shape.at?_append, hkey] at hkeys
    cases hkeys
  rw [nested, Setting.at?, Setting.member?, List.lookup_cons,
    beq_eq_false_iff_ne.2 hne]
  rfl

/-- The tree of a path that leads elsewhere suits a shape. -/
theorem suits_nested_elsewhere {key : String} {rest : List String}
    (hs : s.IsSection) (hkey : s.at? [key] = none) (v : Setting)
    (source : Source) : Suits s (nested source (key :: rest) v) := by
  intro keys s' hs' u hu
  cases keys with
  | nil =>
      cases hs'
      cases hu
      exact .inl ⟨hs, source, _, rfl, Keyed.ordered_singleton _⟩
  | cons k keys =>
      rw [at?_nested_elsewhere hkey hs' v source] at hu
      cases hu

/-- Along the path of another plain thing there is nothing. -/
theorem at?_nested_other {keys : List String} {sub' : Shape}
    (hpath : s.at? path = some sub) (hplain : sub.IsPlain)
    (hkeys : s.at? keys = some sub') (hplain' : sub'.IsPlain)
    (hne : keys ≠ path) (v : Setting) (source : Source) :
    (nested source path v).at? keys = none := by
  refine Option.eq_none_iff_forall_ne_some.2 fun u hu => ?_
  rcases at?_nested hu with ⟨key, rest, rfl, -⟩ | ⟨rest, rfl, -⟩
  · exact not_beyond hkeys hplain' hpath
  · cases rest with
    | nil => exact hne (List.append_nil path)
    | cons key rest => exact not_beyond hpath hplain hkeys

end Nested

-- ============================================================= environments

/-- A tree with what a variable says. -/
def addVariable (tree : Setting) (v : String × String) : Setting :=
  match pathOf v.1 with
  | some path =>
    tree.merge (nested .environment path (ofVariable .environment v.2))
  | none => tree

theorem ofEnvironment_eq (env : Environment) :
    ofEnvironment env = (Keyed.ofList env).foldl addVariable
      (.table .environment []) := rfl

/-- What is added by a variable whose path is known. -/
theorem addVariable_of_path {name : String} {path : List String}
    (h : pathOf name = some path) (tree : Setting) (text : String) :
    addVariable tree (name, text)
      = tree.merge
        (nested .environment path (ofVariable .environment text)) := by
  rw [addVariable, h]

/-- Whether a variable is about something that a shape knows. -/
def touches (s : Shape) (name : String) : Bool :=
  match pathOf name with
  | some (key :: _) => (s.at? [key]).isSome
  | _ => false

/-- Whether a variable gives a value to something in a shape that has no
parts. -/
def Gives (s : Shape) (v : String × String) : Prop :=
  ∃ path sub, pathOf v.1 = some path ∧ s.at? path = some sub ∧ sub.IsPlain ∧
    Stands sub (ofVariable .environment v.2)

theorem go_ne_nil (acc cs : List Char) : keysOf.go acc cs ≠ [] := by
  fun_induction keysOf.go acc cs <;> simp_all

/-- The path of a variable has a first key. -/
theorem pathOf_ne_nil (name : String) : pathOf name ≠ some [] := by
  intro h
  rw [pathOf] at h
  dsimp only at h
  split at h
  · split at h
    · cases h
    · exact go_ne_nil _ _ (List.map_eq_nil_iff.1 (Option.some.inj h))
  · cases h

/-- A variable that is about nothing that a shape knows has no path, or one
that leads elsewhere. -/
theorem elsewhere_of_not_touches {s : Shape} {name : String}
    (h : touches s name = false) :
    pathOf name = none ∨ ∃ key rest, pathOf name = some (key :: rest)
      ∧ s.at? [key] = none := by
  rw [touches] at h
  cases hpath : pathOf name with
  | none => exact .inl rfl
  | some path =>
      cases path with
      | nil => exact absurd hpath (pathOf_ne_nil name)
      | cons key rest =>
          rw [hpath] at h
          exact .inr ⟨key, rest, rfl, by simpa using h⟩

section Folding

variable {s : Shape} (hs : s.IsFilled) (hsection : s.IsSection)

include hs hsection

/-- Where a variable gives a value, or is about something else, the tree of
it suits the shape. -/
theorem suits_variable {v : String × String}
    (hv : Gives s v ∨ touches s v.1 = false) {path : List String}
    (hpath : pathOf v.1 = some path) :
    Suits s (nested .environment path (ofVariable .environment v.2)) := by
  rcases hv with ⟨path', sub, hpath', hsub, hplain, hstands⟩ | hother
  · obtain rfl : path' = path := Option.some.inj (hpath'.symm.trans hpath)
    exact suits_nested hs hsub hplain hstands _
  · rcases elsewhere_of_not_touches hother with hnone
      | ⟨key, rest, hrest, hkey⟩
    · rw [hnone] at hpath
      cases hpath
    · obtain rfl : key :: rest = path :=
        Option.some.inj (hrest.symm.trans hpath)
      exact suits_nested_elsewhere hsection hkey _ _

theorem Suits.addVariable {tree : Setting} (htree : Suits s tree)
    {v : String × String} (hv : Gives s v ∨ touches s v.1 = false) :
    Suits s (addVariable tree v) := by
  rw [Settings.addVariable]
  cases hpath : pathOf v.1 with
  | none => exact htree
  | some path => exact htree.merge (suits_variable hs hsection hv hpath)

/-- Along the path of a plain thing, a variable counts if it has this path. -/
theorem addVariable_at? {tree : Setting} (htree : Suits s tree)
    {v : String × String} (hv : Gives s v ∨ touches s v.1 = false)
    {path : List String} {sub : Shape} (hsub : s.at? path = some sub)
    (hplain : sub.IsPlain) :
    (addVariable tree v).at? path
      = if pathOf v.1 = some path then some (ofVariable .environment v.2)
        else tree.at? path := by
  rw [addVariable]
  cases hpath : pathOf v.1 with
  | none => rfl
  | some path' =>
      have hsuits := suits_variable hs hsection hv hpath
      dsimp only
      rw [merge_at?_of_plain htree hsuits hsub hplain]
      by_cases hsame : path' = path
      · subst hsame
        rw [if_pos rfl, at?_nested_self, Option.some_or]
      · rw [if_neg (by simpa using hsame)]
        have hnone :
            (nested .environment path' (ofVariable .environment v.2)).at? path
              = none := by
          rcases hv with ⟨keys, sub', hkeys, hsub', hplain', -⟩ | hother
          · obtain rfl : keys = path' :=
              Option.some.inj (hkeys.symm.trans hpath)
            exact at?_nested_other hsub' hplain' hsub hplain
              (Ne.symm hsame) _ _
          · rcases elsewhere_of_not_touches hother with hno
              | ⟨key, rest, hrest, hkey⟩
            · rw [hno] at hpath
              cases hpath
            · obtain rfl : key :: rest = path' :=
                Option.some.inj (hrest.symm.trans hpath)
              cases path with
              | nil =>
                  cases hsub
                  exact (hsection.not_isPlain hplain).elim
              | cons k keys => exact at?_nested_elsewhere hkey hsub _ _
        rw [hnone, Option.none_or]

/-- The trees of several variables suit the shape, and along the path of a
plain thing the variable with its name counts. -/
theorem foldl_addVariable {path : List String} {sub : Shape}
    (hsub : s.at? path = some sub) (hplain : sub.IsPlain) {name : String}
    (hname : pathOf name = some path) :
    ∀ (vs : List (String × String)) (tree : Setting), Suits s tree →
      (∀ v ∈ vs, Gives s v ∨ touches s v.1 = false) →
      (∀ v ∈ vs, pathOf v.1 = some path → v.1 = name) →
      Suits s (vs.foldl Settings.addVariable tree) ∧
        (vs.foldl Settings.addVariable tree).at? path
          = ((vs.reverse.lookup name).map (ofVariable .environment)).or
            (tree.at? path)
  | [], tree, htree, _, _ => ⟨htree, rfl⟩
  | v :: vs, tree, htree, hvs, hnames => by
      obtain ⟨hv, hvs⟩ := List.forall_mem_cons.1 hvs
      obtain ⟨hfirst, hnames⟩ := List.forall_mem_cons.1 hnames
      obtain ⟨hsuits, hat⟩ := foldl_addVariable hsub hplain hname vs _
        (htree.addVariable hs hsection hv) hvs hnames
      refine ⟨hsuits, hat.trans ?_⟩
      rw [addVariable_at? hs hsection htree hv hsub hplain, List.reverse_cons,
        List.lookup_append]
      obtain ⟨n, text⟩ := v
      by_cases hn : n = name
      · subst hn
        rw [if_pos hname, List.lookup_cons, beq_self_eq_true]
        cases vs.reverse.lookup n <;> rfl
      · rw [if_neg fun hpath => hn (hfirst hpath), List.lookup_cons,
          beq_eq_false_iff_ne.2 (Ne.symm hn)]
        cases vs.reverse.lookup name <;> rfl

end Folding

/-- What the environment says about a plain thing, by the name of its
variable, where each variable gives a value or is about something else. -/
theorem ofEnvironment_at? {s : Shape} (hs : s.IsFilled)
    (hsection : s.IsSection) {env : Environment}
    (hnodup : (env.map (·.1)).Nodup)
    (henv : ∀ v ∈ env, Gives s v ∨ touches s v.1 = false) {path : List String}
    {sub : Shape} (hsub : s.at? path = some sub) (hplain : sub.IsPlain)
    {name : String} (hname : pathOf name = some path)
    (hnames : ∀ v ∈ env, pathOf v.1 = some path → v.1 = name) :
    Suits s (ofEnvironment env) ∧
      (ofEnvironment env).at? path
        = (env.get? name).map (ofVariable .environment) := by
  have hmem (v : String × String) : v ∈ Keyed.ofList env → v ∈ env :=
    (Keyed.mem_ofList hnodup).1
  have hempty : Suits s (.table .environment []) := by
    intro keys s' hs' u hu
    cases keys with
    | nil =>
        cases hs'
        cases hu
        exact .inl ⟨hsection, _, _, rfl, Keyed.ordered_nil⟩
    | cons key keys => cases hu
  obtain ⟨hsuits, hat⟩ :=
    foldl_addVariable hs hsection hsub hplain hname (Keyed.ofList env) _
      hempty (fun v hv => henv v (hmem v hv))
      (fun v hv => hnames v (hmem v hv))
  have hlookup : (Keyed.ofList env).reverse.lookup name = env.lookup name := by
    rw [← Keyed.lookup_ofList, (Keyed.ordered_ofList env).ofList,
      Keyed.lookup_ofList_of_nodup hnodup]
  refine ⟨hsuits, ?_⟩
  rw [ofEnvironment_eq, hat, hlookup]
  cases path with
  | nil =>
      cases hsub
      exact (hsection.not_isPlain hplain).elim
  | cons key rest =>
      rw [Setting.at?, Setting.member?, List.lookup_nil, Option.bind_none,
        Option.or_none]
      rfl

-- ======================================================== what does not count

/-- Whether two trees are tables with the same members under the keys that a
shape knows. -/
def SameKnown (s : Shape) (t u : Setting) : Prop :=
  ∃ ms ns, t = .table .environment ms ∧ u = .table .environment ns ∧
    Keyed.Ordered ms ∧ Keyed.Ordered ns ∧ ∀ key, (s.at? [key]).isSome →
      ms.lookup key = ns.lookup key

section Known

variable {s : Shape} {t u : Setting}

theorem SameKnown.merge (h : SameKnown s t u) (key : String) (v : Setting) :
    SameKnown s (t.merge (.table .environment [(key, v)]))
      (u.merge (.table .environment [(key, v)])) := by
  obtain ⟨ms, ns, rfl, rfl, -, -, hsame⟩ := h
  have hordered :=
    Setting.ordered_mergeMembers (Keyed.ordered_singleton (key, v))
  refine ⟨_, _, rfl, rfl, hordered ms, hordered ns, fun k hk => ?_⟩
  rw [Setting.lookup_mergeMembers, Setting.lookup_mergeMembers, hsame k hk]

/-- A member under a key that is not known changes nothing. -/
theorem SameKnown.merge_left (h : SameKnown s t u) {key : String}
    (hkey : s.at? [key] = none) (v : Setting) :
    SameKnown s (t.merge (.table .environment [(key, v)])) u := by
  obtain ⟨ms, ns, rfl, rfl, -, hns, hsame⟩ := h
  refine ⟨_, _, rfl, rfl,
    Setting.ordered_mergeMembers (Keyed.ordered_singleton (key, v)) ms, hns,
    fun k hk => ?_⟩
  have hne : k ≠ key := by
    rintro rfl
    rw [hkey] at hk
    cases hk
  rw [Setting.lookup_mergeMembers, List.lookup_cons, beq_eq_false_iff_ne.2 hne,
    List.lookup_nil, Option.merge_none_right, hsame k hk]

theorem SameKnown.foldl (vs : List (String × String)) (h : SameKnown s t u) :
    SameKnown s (vs.foldl addVariable t)
      ((vs.filter fun v => touches s v.1).foldl addVariable u) := by
  induction vs generalizing t u with
  | nil => exact h
  | cons v vs ih =>
      obtain ⟨name, text⟩ := v
      cases htouches : touches s name with
      | true =>
          rw [List.filter_cons_of_pos (by simpa using htouches),
            List.foldl_cons, List.foldl_cons]
          refine ih ?_
          cases hpath : pathOf name with
          | none => simpa [addVariable, hpath] using h
          | some path =>
              cases path with
              | nil => exact absurd hpath (pathOf_ne_nil name)
              | cons key rest =>
                  rw [addVariable_of_path hpath, addVariable_of_path hpath]
                  exact h.merge key _
      | false =>
          rw [List.filter_cons_of_neg (by simpa using htouches),
            List.foldl_cons]
          refine ih ?_
          rcases elsewhere_of_not_touches htouches with hnone
            | ⟨key, rest, hpath, hkey⟩
          · simpa [addVariable, hnone] using h
          · rw [addVariable_of_path hpath]
            exact h.merge_left hkey _

/-- What is merged into a table counts by what is known of it. -/
theorem SameKnown.ofSetting {name : String} {fields : Fields}
    (h : SameKnown (.record name true fields) t u) (source : Source)
    (members : List (String × Setting)) :
    ofSetting (.record name true fields)
      ((Setting.table source members).merge t)
      = ofSetting (.record name true fields)
        ((Setting.table source members).merge u) := by
  obtain ⟨ms, ns, rfl, rfl, hms, hns, hsame⟩ := h
  rw [Setting.merge, Setting.merge, ofSetting_known,
    ofSetting_known name fields _ (Setting.mergeMembers members ns)]
  have hknown (key : String) :
      ((Shape.record name true fields).at? [key]).isSome
        = (fields.shape? key).isSome := by
    rw [Shape.at?]
    cases fields.shape? key <;> rfl
  have hfilter :
      ((Setting.mergeMembers members ms).filter fun m =>
        (fields.shape? m.1).isSome)
        = (Setting.mergeMembers members ns).filter fun m =>
          (fields.shape? m.1).isSome := by
    refine ((Setting.ordered_mergeMembers hms members).filter _).ext
      ((Setting.ordered_mergeMembers hns members).filter _) fun key => ?_
    rw [Keyed.lookup_filter (fun key => (fields.shape? key).isSome),
      Keyed.lookup_filter (fun key => (fields.shape? key).isSome),
      Setting.lookup_mergeMembers, Setting.lookup_mergeMembers]
    by_cases hkey : (fields.shape? key).isSome = true
    · rw [hsame key ((hknown key).trans hkey)]
    · rw [if_neg hkey, if_neg hkey]
  rw [hfilter]

end Known

/-- Variables that are about nothing that a shape knows do not count. -/
theorem ofSetting_ofEnvironment {name : String} {fields : Fields}
    (env : Environment) (source : Source) (members : List (String × Setting)) :
    let s : Shape := .record name true fields
    ofSetting s ((Setting.table source members).merge (ofEnvironment env))
      = ofSetting s ((Setting.table source members).merge
        (ofEnvironment (env.filter fun v => touches s v.1))) := by
  intro s
  refine SameKnown.ofSetting ?_ source members
  rw [ofEnvironment_eq, ofEnvironment_eq, Keyed.ofList_filter (touches s)]
  exact SameKnown.foldl _
    ⟨[], [], rfl, rfl, Keyed.ordered_nil, Keyed.ordered_nil, fun _ _ => rfl⟩

end PatternCheck.Settings
