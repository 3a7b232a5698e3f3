import PatternCheck.Proofs.Server.Leaves
import PatternCheck.Proofs.Server.Serialised
import PatternCheck.Proofs.Settings.Documents

/-
Layers of settings. A layer is a tree that suits the shape of
configurations and whose leaves can all be read. Merging two layers gives
a layer again, which has at each leaf what the second one has there, or
else the first one (`IsLayer.held_merge`). From a layer a configuration is
made without fail, and the configuration has at each leaf what the layer
has there (`IsLayer.configuration`). The settings that are built in are a
layer with something at every leaf: the defaults.
-/

namespace PatternCheck.Server

open Settings (Setting Suits Source)

-- ================================================================= layers

/-- What some settings have at a leaf. -/
def Leaf.held (l : Leaf) (t : Setting) : Option l.kind.Value :=
  (t.at? l.path).bind l.kind.read

/-- Whether settings can stand for a configuration, each leaf with a value
of its kind. -/
structure IsLayer (t : Setting) : Prop where
  suits : Suits Config.shape t
  reads : ∀ l : Leaf, ∀ u ∈ t.at? l.path, (l.kind.read u).isSome

namespace IsLayer

variable {t u : Setting}

theorem merge (ht : IsLayer t) (hu : IsLayer u) : IsLayer (t.merge u) where
  suits := ht.suits.merge hu.suits
  reads l a ha := by
    rw [Settings.merge_at?_of_plain ht.suits hu.suits l.at?_path
      l.kind.isPlain] at ha
    cases hb : u.at? l.path with
    | none =>
        rw [hb, Option.none_or] at ha
        exact ht.reads l a ha
    | some b =>
        rw [hb, Option.some_or] at ha
        exact hu.reads l a (hb.trans ha)

/-- The second layer counts where it has something. -/
theorem held_merge (ht : IsLayer t) (hu : IsLayer u) (l : Leaf) :
    l.held (t.merge u) = (l.held u).or (l.held t) := by
  rw [Leaf.held,
    Settings.merge_at?_of_plain ht.suits hu.suits l.at?_path l.kind.isPlain,
    Leaf.held, Leaf.held]
  cases hb : u.at? l.path with
  | none => rfl
  | some b =>
      obtain ⟨x, hx⟩ := Option.isSome_iff_exists.1 (hu.reads l b hb)
      rw [Option.some_or, Option.bind_some, hx, Option.some_or]

/-- A layer makes a configuration. Where it has nothing, the default is
that of the section, if it has this section. -/
theorem configuration (ht : IsLayer t) (build : Build) :
    ∃ v, Settings.ofSetting Config.shape t = .ok v ∧
      (v.get? "log").isSome = (t.at? ["log"]).isSome ∧
      ∀ l : Leaf, l.get (.ofDocument build v)
        = (l.held t).getD (l.get (Leaf.base build v)) := by
  obtain ⟨v, hv, hparts⟩ := Settings.isRead_of_suits Config.shape ht.suits
  refine ⟨v, hv, ?_, fun l => ?_⟩
  · have hlog : Config.shape.at? ["log"] = some Log.Config.shape := rfl
    rw [← at?_key, hparts _ _ hlog]
    cases hu : t.at? ["log"] with
    | none => rfl
    | some u =>
        obtain ⟨w, hw, -⟩ := Settings.isRead_of_suits _ (ht.suits.part hlog hu)
        rw [Option.bind_some, hw]
        rfl
  · rw [Leaf.get_ofDocument, hparts _ _ l.at?_path, Leaf.held]
    cases hu : t.at? l.path with
    | none => rfl
    | some u =>
        rcases ht.suits _ _ l.at?_path u hu with ⟨hsection, -⟩
          | ⟨-, hscalar, -⟩
        · exact (hsection.not_isPlain l.kind.isPlain).elim
        · rw [Option.bind_some, Option.bind_some,
            Kind.read_of_isScalar hscalar]

end IsLayer

-- =============================================================== built in

/-- All records in the shape of configurations have defaults for their
members. -/
theorem isFilled_shape : Config.shape.IsFilled := by
  intro path sub hsub
  rcases section_or_leaf hsub with ⟨-, hsection⟩ | ⟨l, -, rfl⟩
  · exact .inl hsection
  · exact .inr l.kind.isPlain

/-- Each leaf has its default in the settings that are built in. -/
theorem held_builtIn (build : Build) (l : Leaf) :
    l.held (builtIn build) = some (l.get (.standard build)) := by
  cases build <;> cases l <;> rfl

theorem isLayer_builtIn (build : Build) : IsLayer (builtIn build) where
  suits := by
    have fits : (Config.standard build).InRange := by
      refine ⟨⟨?_, ?_⟩, ?_, ?_, ?_⟩
      · show 5000 < 65536
        decide
      · show 127 < 256 ∧ 0 < 256 ∧ 0 < 256 ∧ 1 < 256
        decide
      · show 65536 < UInt64.size
        decide
      · show 10485760 < UInt64.size
        decide
      · show 250 < UInt32.size
        decide
    exact Settings.suits_document isFilled_shape
      ((Config.written build).fits _ fits) _
  reads l u hu := by
    have hheld := held_builtIn build l
    rw [Leaf.held, hu, Option.bind_some] at hheld
    rw [hheld]
    rfl

end PatternCheck.Server
