import PatternCheck.Proofs.Server.Loaded
import PatternCheck.Proofs.Settings.Misfits

/-
Failures that name their culprit. If something in the merged settings does
not fit, no configuration is loaded, and the failure has the path of the
first such thing. Where everything fits but for one leaf (`FitsBesides`),
this is the path of the leaf, and it goes one key further only where a name
is given as the key of a table. What another source says about a leaf does
not matter once the environment has a value for it (`load_culprit`).
-/

namespace PatternCheck.Server

open Log (Environment)
open Settings (Setting misfits plainMisfits isSectionOf ofEnvironment)

-- ================================================================= fitting

/-- Whether something can stand where a section is: a table, or a list that
fits as a whole. -/
def isSectionAt (path : List String) (t : Setting) : Bool :=
  (Config.shape.at? path).all fun sub => isSectionOf sub t

/-- Whether all settings fit, but perhaps those at one leaf: the sections can
stand where they are, and any other leaf takes what is there. -/
structure FitsBesides (l : Leaf) (t : Setting) : Prop where
  parts : ∀ path ∈ sections, (t.at? path).all (isSectionAt path) = true
  others : ∀ l' : Leaf, l' ≠ l → (t.at? l'.path).all l'.kind.shape.takes = true

instance (l : Leaf) (t : Setting) : Decidable (FitsBesides l t) :=
  decidable_of_iff
    ((sections.all fun path => (t.at? path).all (isSectionAt path))
      && Leaf.all.all fun l' =>
      l' = l || (t.at? l'.path).all l'.kind.shape.takes)
    (by
      rw [Bool.and_eq_true, List.all_eq_true, List.all_eq_true]
      constructor
      · rintro ⟨parts, leaves⟩
        refine ⟨parts, fun l' other => ?_⟩
        rcases Bool.or_eq_true_iff.1 (leaves l' l'.mem_all) with same | fits
        · exact absurd (of_decide_eq_true same) other
        · exact fits
      · rintro ⟨parts, others⟩
        refine ⟨parts, fun l' _ => ?_⟩
        by_cases same : l' = l
        · exact Bool.or_eq_true_iff.2 (.inl (decide_eq_true same))
        · exact Bool.or_eq_true_iff.2 (.inr (others l' same)))

section Besides

variable {l : Leaf} {t u : Setting} {p : Settings.Scalar → Prop}
  {keys : List String}

/-- Then only what is at this leaf may be a misfit. -/
theorem FitsBesides.misfit (h : FitsBesides l t) (order : t.Ordered p)
    (misfit : keys ∈ misfits Config.shape t) :
    ∃ u, t.at? l.path = some u ∧ l.kind.shape.takes u = false ∧
      keys = l.path ++ l.kind.shape.culprit u := by
  have parts (path : List String) (sub : Shape)
    (hsub : Config.shape.at? path = some sub) :
      sub.IsPlain ∨ sub.IsSection ∧ (t.at? path).all (isSectionOf sub)
        = true := by
    rcases section_or_leaf hsub with ⟨listed, filled⟩ | ⟨l', -, rfl⟩
    · have here := h.parts path listed
      have known : isSectionAt path = isSectionOf sub := by
        funext u
        rw [isSectionAt, hsub, Option.all_some]
      exact .inr ⟨filled, known ▸ here⟩
    · exact .inl l'.kind.isPlain
  obtain ⟨path, rest, sub, u, rfl, hsub, plain, hu, misfit⟩ :=
    Settings.exists_at?_of_mem_misfits order parts misfit
  rcases section_or_leaf hsub with ⟨-, filled⟩ | ⟨l', rfl, rfl⟩
  · exact (filled.not_isPlain plain).elim
  rw [Settings.misfits_plain plain, plainMisfits] at misfit
  cases taken : l'.kind.shape.takes u with
  | true =>
    rw [taken] at misfit
    cases misfit
  | false =>
    rw [taken] at misfit
    obtain rfl : rest = l'.kind.shape.culprit u := List.mem_singleton.1 misfit
    by_cases same : l' = l
    · subst same
      exact ⟨u, hu, taken, rfl⟩
    · have fits := h.others l' same
      rw [hu, Option.all_some, taken] at fits
      cases fits

/-- So if the leaf does not take what is there, that comes first. -/
theorem FitsBesides.misfits_eq (h : FitsBesides l t) (order : t.Ordered p)
    (hu : t.at? l.path = some u) (refused : l.kind.shape.takes u = false) :
    ∃ more, misfits Config.shape t
      = (l.path ++ l.kind.shape.culprit u) :: more := by
  have here : l.kind.shape.culprit u ∈ misfits l.kind.shape u := by
    rw [Settings.misfits_plain l.kind.isPlain, plainMisfits, refused]
    exact List.mem_singleton_self _
  have listed := Settings.mem_misfits_of_at? l.at?_path hu here
  cases all : misfits Config.shape t with
  | nil =>
    rw [all] at listed
    cases listed
  | cons keys more =>
    obtain ⟨u', hu', -, rfl⟩ := h.misfit order (all ▸ List.mem_cons_self ..)
    obtain rfl : u' = u := Option.some.inj (hu'.symm.trans hu)
    exact ⟨more, rfl⟩

/-- And if it does, nothing is amiss. -/
theorem FitsBesides.misfits_nil (h : FitsBesides l t) (order : t.Ordered p)
    (hu : t.at? l.path = some u) (taken : l.kind.shape.takes u = true) :
    misfits Config.shape t = [] := by
  refine List.eq_nil_iff_forall_not_mem.2 fun keys misfit => ?_
  obtain ⟨u', hu', refused, -⟩ := h.misfit order misfit
  obtain rfl : u' = u := Option.some.inj (hu'.symm.trans hu)
  rw [taken] at refused
  cases refused

end Besides

-- ================================================================= loading

section Loading

variable {build : Build} {st : Storage} {env : Environment}
  {file : Option String} {tree : Setting}

/-- The settings in a file have their tables in order, and nothing is null. -/
theorem ordered_fileSettings {path : String} {f : File} {t : Setting}
    (h : fileSettings path f = .ok t) : t.Ordered (· ≠ .null) := by
  rw [fileSettings] at h
  split at h
  · cases h
  · split at h
    · cases h
      exact Settings.ordered_ofToml _ _
    · cases h

/-- What is merged: what is built in, the file and the environment. -/
theorem merged_layers (read : merged build st env file = .ok tree) :
    ∃ inFile : Setting, inFile.Ordered (· ≠ .null) ∧
      tree = ((builtIn build).merge inFile).merge (ofEnvironment env) := by
  rw [merged] at read
  cases named : file.bind fun path => (st.file? path).map (path, ·) with
  | none =>
    rw [named] at read
    cases read
    exact ⟨_, .table Keyed.ordered_nil fun _ h => (List.not_mem_nil h).elim,
      rfl⟩
  | some found =>
    rw [named] at read
    obtain ⟨path, f⟩ := found
    dsimp only at read
    cases settings : fileSettings path f with
    | error e =>
      rw [settings] at read
      cases read
    | ok inFile =>
      rw [settings] at read
      cases read
      exact ⟨inFile, ordered_fileSettings settings, rfl⟩

/-- The merged settings have their tables in order. -/
theorem ordered_merged (read : merged build st env file = .ok tree) :
    tree.Ordered fun _ => True := by
  obtain ⟨inFile, order, rfl⟩ := merged_layers read
  have forget {t : Setting} (h : t.Ordered (· ≠ .null)) :
      t.Ordered fun _ => True :=
    h.mono fun _ _ => trivial
  exact Settings.ordered_merge
    (Settings.ordered_merge (Settings.ordered_ofDocument _ _) (forget order))
    (forget (Settings.ordered_ofEnvironment env))

/-- The environment has the last word on what has no parts. -/
theorem merged_at? (read : merged build st env file = .ok tree)
    {path : List String} {e : Setting}
    (given : (ofEnvironment env).at? path = some e) (scalar : e.IsScalar) :
    tree.at? path = some e := by
  obtain ⟨inFile, -, rfl⟩ := merged_layers read
  exact Settings.merge_at?_scalar given scalar

/-- If the file is there, what is loaded is made of the merged settings. -/
theorem load_of_merged (there : ∀ path, file = some path →
      (st.file? path).isSome = true)
    (read : merged build st env file = .ok tree) :
    Config.load build st env file = Config.ofSettings build tree := by
  have found : (file.filter fun path => (st.file? path).isNone) = none := by
    refine Option.filter_eq_none_iff.2 fun path named missing => ?_
    rw [Option.isNone_iff_eq_none] at missing
    have present := there path named
    rw [missing] at present
    cases present
  rw [Config.load, found]
  dsimp only
  rw [Config.extract, read]
  rfl

/-- What is made of settings is a configuration or a failure that names the
first misfit. -/
theorem ofSettings_misfits (build : Build) (t : Setting) :
    (misfits Config.shape t = [] → ∃ c, Config.ofSettings build t = .ok c) ∧
      ∀ keys more, misfits Config.shape t = keys :: more →
        ∃ p, Config.ofSettings build t = .error (.config p) ∧
          p.path = keys := by
  have reports := Settings.reports_ofSetting Config.shape t
  rw [Config.ofSettings]
  cases made : Settings.ofSetting Config.shape t with
  | ok v =>
    rw [made] at reports
    have clean : misfits Config.shape t = [] := reports
    refine ⟨fun _ => ⟨_, rfl⟩, fun keys more listed => ?_⟩
    rw [clean] at listed
    cases listed
  | error p =>
    rw [made] at reports
    have first : (misfits Config.shape t).head? = some p.path := reports
    refine ⟨fun clean => ?_, fun keys more listed => ⟨p, rfl, ?_⟩⟩
    · rw [clean] at first
      cases first
    · rw [listed] at first
      exact (Option.some.inj first).symm

end Loading

section Cases

variable (build : Build) (st : Storage) (env : Environment)
  (file : Option String)

/-- Settings that are merged and judged. -/
theorem exists_merged (judge : Setting → Bool)
    (h : (merged build st env file).toOption.any judge = true) :
    ∃ t, merged build st env file = .ok t ∧ judge t = true := by
  cases read : merged build st env file with
  | error e =>
    rw [read] at h
    cases h
  | ok t =>
    rw [read] at h
    exact ⟨t, rfl, h⟩

/-- Settings of which all fit but those at one leaf. -/
theorem exists_refused (l : Leaf) (below : List String)
    (h : ((merged build st env file).toOption.any fun t =>
      decide (FitsBesides l t)
      && (t.at? l.path).any fun u =>
        !l.kind.shape.takes u && l.kind.shape.culprit u = below) = true) :
    ∃ t u, merged build st env file = .ok t ∧ FitsBesides l t ∧
      t.at? l.path = some u ∧ l.kind.shape.takes u = false ∧
        l.kind.shape.culprit u = below := by
  obtain ⟨t, read, h⟩ := exists_merged build st env file _ h
  obtain ⟨fits, here⟩ := Bool.and_eq_true_iff.1 h
  obtain ⟨u, hu, here⟩ := (Option.any_eq_true _ _).1 here
  obtain ⟨refused, culprit⟩ := Bool.and_eq_true_iff.1 here
  refine ⟨t, u, read, of_decide_eq_true fits, hu, ?_,
    of_decide_eq_true culprit⟩
  rwa [Bool.not_eq_true'] at refused

end Cases

/-- A storage that has a text in each file. -/
def holding (text : String) : Storage :=
  { file? := fun _ => some ⟨Text.Utf8.encode text.toList, 0⟩ }

theorem holding_there (text : String) (file : Option String) :
    ∀ path, file = some path → ((holding text).file? path).isSome = true :=
  fun _ _ => rfl

-- ================================================================ culprits

/-- If something does not fit, the failure has the path of the first such
thing. If only one leaf does not take what is there, this is the path of the
leaf, with the key below it where that key is the name. And if the
environment has for this leaf what it takes, a configuration is loaded,
whatever the file has there. -/
theorem load_culprit {build : Build} {st : Storage} {env : Environment}
    {file : Option String} {tree : Setting}
    (there : ∀ path, file = some path → (st.file? path).isSome = true)
    (read : merged build st env file = .ok tree) :
    (∀ keys more, misfits Config.shape tree = keys :: more →
      ∃ p, Config.load build st env file = .error (.config p) ∧ p.path = keys)
    ∧ ∀ l : Leaf, FitsBesides l tree →
      (∀ u, tree.at? l.path = some u → l.kind.shape.takes u = false →
        ∃ p, Config.load build st env file = .error (.config p) ∧
          p.path = l.path ++ l.kind.shape.culprit u)
      ∧ ∀ e, (ofEnvironment env).at? l.path = some e →
        l.kind.shape.takes e = true →
          ∃ c, Config.load build st env file = .ok c := by
  have order := ordered_merged read
  obtain ⟨loaded, failed⟩ := ofSettings_misfits build tree
  rw [load_of_merged there read]
  refine ⟨failed, fun l fits => ⟨fun u hu refused => ?_,
    fun e given taken => ?_⟩⟩
  · obtain ⟨more, first⟩ := fits.misfits_eq order hu refused
    exact failed _ more first
  · have scalar :=
      Settings.isScalar_of_takes
        ((Settings.ordered_ofEnvironment env).at? given) taken
    exact loaded (fits.misfits_nil order (merged_at? read given scalar) taken)

/-- A file with a text as the second limit of a list; one with a number for a
flag, alone and with a variable for the flag; and a variable that is no
address. -/
theorem load_culprit_cases :
    (∃ p, Config.load .debug (holding "limits = [1, 'x']") [] (some "c.toml")
      = .error (.config p)
      ∧ p.path = ["limits", "1"])
    ∧ (∃ p, Config.load .debug (holding "cors = 1") [] (some "c.toml")
      = .error (.config p)
      ∧ p.path = ["cors"])
    ∧ (∃ c, Config.load .debug (holding "cors = 1") [("REGVIZ_CORS", "true")]
      (some "c.toml") = .ok c)
    ∧ ∃ p, Config.load .debug (holding "") [("REGVIZ_BIND", "nowhere")] none
      = .error (.config p)
      ∧ p.path = ["bind"] := by
  refine ⟨?_, ?_, ?_, ?_⟩
  · obtain ⟨t, read, h⟩ :=
      exists_merged .debug (holding "limits = [1, 'x']") [] (some "c.toml")
        (fun t => misfits Config.shape t = [["limits", "1"]])
        (by decide +kernel)
    exact (load_culprit (holding_there _ _) read).1 _ [] (of_decide_eq_true h)
  · obtain ⟨t, u, read, fits, hu, refused, whole⟩ :=
      exists_refused .debug (holding "cors = 1") [] (some "c.toml") .cors []
        (by decide +kernel)
    obtain ⟨named, -⟩ := (load_culprit (holding_there _ _) read).2 .cors fits
    obtain ⟨p, failed, path⟩ := named u hu refused
    exact ⟨p, failed, by rw [path, whole]; rfl⟩
  · obtain ⟨t, read, fits⟩ := exists_merged .debug (holding "cors = 1")
      [("REGVIZ_CORS", "true")] (some "c.toml") (fun t => FitsBesides .cors t)
      (by decide +kernel)
    have given :
        ((ofEnvironment [("REGVIZ_CORS", "true")]).at? Leaf.cors.path).any
          Leaf.cors.kind.shape.takes = true := by decide +kernel
    obtain ⟨e, he, taken⟩ := (Option.any_eq_true _ _).1 given
    obtain ⟨-, loaded⟩ :=
      (load_culprit (holding_there _ _) read).2 .cors (of_decide_eq_true fits)
    exact loaded e he taken
  · obtain ⟨t, u, read, fits, hu, refused, whole⟩ :=
      exists_refused .debug (holding "") [("REGVIZ_BIND", "nowhere")] none
        .bind [] (by decide +kernel)
    obtain ⟨named, -⟩ := (load_culprit (holding_there _ _) read).2 .bind fits
    obtain ⟨p, failed, path⟩ := named u hu refused
    exact ⟨p, failed, by rw [path, whole]; rfl⟩

/-- A name that is the key of a table with a number in it is none of the
leaf's own keys, but the path of the failure goes on to it. -/
theorem load_named_format :
    let st := holding "[log]\nformat = \x7bjson = 1\x7d"
    ∃ t u p, merged .debug st [] (some "c.toml") = .ok t ∧
      FitsBesides .format t ∧ t.at? Leaf.format.path = some u ∧
        Leaf.format.kind.shape.takes u = false ∧
      Config.load .debug st [] (some "c.toml") = .error (.config p) ∧
        p.path ≠ Leaf.format.path := by
  intro st
  obtain ⟨t, u, read, fits, hu, refused, below⟩ :=
    exists_refused .debug st [] (some "c.toml") .format ["json"]
      (by decide +kernel)
  obtain ⟨more, first⟩ := fits.misfits_eq (ordered_merged read) hu refused
  obtain ⟨p, failed, path⟩ := (ofSettings_misfits .debug t).2 _ more first
  refine ⟨t, u, p, read, fits, hu, refused, ?_, ?_⟩
  · rw [load_of_merged (holding_there _ _) read, failed]
  · rw [path, below]
    decide

end PatternCheck.Server
