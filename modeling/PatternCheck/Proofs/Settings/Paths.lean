import PatternCheck.Proofs.Keyed
import PatternCheck.Proofs.Shape.Fits
import PatternCheck.Settings.Typed

/-
Trees of settings, seen along paths of keys. A shape has paths too: they
lead through its records to what is in them. A tree suits a shape if along
each of these paths it has a table where the shape has a record and
elsewhere something that can be read (`Suits`). Merging two such trees
gives another one, and along each path it merges what the two have there
(`merge_at?`); since nothing but tables is ever merged, what is not a
table is simply that of the later tree.
-/

namespace PatternCheck

-- ================================================================= paths

/-- The part of a shape at the end of a path. -/
def Shape.at? : List String → Shape → Option Shape
  | [], s => some s
  | key :: keys, .record _ _ fields =>
    (fields.shape? key).bind (Shape.at? keys)
  | _ :: _, _ => none

/-- Whether a shape is that of a record whose members have defaults. -/
def Shape.IsSection : Shape → Prop
  | .record _ filled _ => filled = true
  | _ => False

/-- Whether a shape is that of a thing without members. -/
def Shape.IsPlain : Shape → Prop
  | .record .. => False
  | .optional s => s.IsPlain
  | _ => True

/-- A section has members. -/
theorem Shape.IsSection.not_isPlain {s : Shape} (h : s.IsSection) :
    ¬ s.IsPlain := by
  cases s with
  | record => exact id
  | _ => exact h.elim

/-- The path of a thing without members leads to itself alone. -/
theorem Shape.at?_plain {s sub : Shape} (hs : s.IsPlain) {keys : List String}
    (h : s.at? keys = some sub) : keys = [] ∧ sub = s := by
  cases keys with
  | nil =>
      cases h
      exact ⟨rfl, rfl⟩
  | cons key rest =>
      cases s with
      | record => exact hs.elim
      | _ => cases h

/-- A path in two parts is followed part by part. -/
theorem Shape.at?_append (keys rest : List String) : ∀ s : Shape,
    s.at? (keys ++ rest) = (s.at? keys).bind (Shape.at? rest) := by
  induction keys with
  | nil => exact fun _ => rfl
  | cons key keys ih =>
      intro s
      cases s with
      | record name filled fields =>
          rw [List.cons_append, Shape.at?, Shape.at?, Option.bind_assoc]
          exact congrArg _ (funext ih)
      | _ => rfl

/-- Whether all records in a shape have defaults for their members. -/
def Shape.IsFilled (s : Shape) : Prop :=
  ∀ keys sub, s.at? keys = some sub → sub.IsSection ∨ sub.IsPlain

/-- The part of a document at the end of a path. -/
def Json.Value.at? : List String → Value → Option Value
  | [], v => some v
  | key :: path, v => (v.get? key).bind (Json.Value.at? path)

namespace Settings

namespace Setting

/-- The member of a table with a key. -/
def member? (key : String) : Setting → Option Setting
  | table _ members => members.lookup key
  | _ => none

/-- The setting at the end of a path. -/
def at? : List String → Setting → Option Setting
  | [], s => some s
  | key :: path, s => (s.member? key).bind (at? path)

theorem at?_append (keys rest : List String) : ∀ t : Setting,
    t.at? (keys ++ rest) = (t.at? keys).bind (at? rest) := by
  induction keys with
  | nil => exact fun _ => rfl
  | cons key keys ih =>
      intro t
      rw [List.cons_append, at?, at?, Option.bind_assoc]
      exact congrArg _ (funext ih)

/-- Whether a setting is a table, with its members in order. -/
def IsTable (s : Setting) : Prop :=
  ∃ source members, s = table source members ∧ Keyed.Ordered members

/-- Whether a setting has no parts. -/
def IsScalar (s : Setting) : Prop := ∃ source value, s = scalar source value

-- =============================================================== merging

/-- What has no parts is taken as it is. -/
theorem merge_scalar (s : Setting) {t : Setting} (ht : t.IsScalar) :
    s.merge t = t := by
  obtain ⟨source, value, rfl⟩ := ht
  cases s <;> rfl

/-- Members under the same key are merged, others are kept. -/
theorem lookup_mergeMembers (key : String) (ns : List (String × Setting)) :
    ∀ ms : List (String × Setting), (mergeMembers ms ns).lookup key
      = Option.merge merge (ms.lookup key) (ns.lookup key)
  | [] => by
      rw [mergeMembers]
      cases ns.lookup key <;> rfl
  | (k, a) :: ms => by
      have hrest := lookup_mergeMembers key ns ms
      have hput : mergeMembers ((k, a) :: ms) ns
          = Keyed.put k (((ns.lookup k).map (merge a)).getD a)
          (mergeMembers ms ns) := by
        rw [mergeMembers]
        cases ns.lookup k <;> rfl
      rw [hput, Keyed.lookup_put]
      by_cases hk : key = k
      · subst hk
        rw [if_pos rfl, List.lookup_cons, beq_self_eq_true]
        cases ns.lookup key <;> rfl
      · rw [if_neg hk, hrest, List.lookup_cons, beq_eq_false_iff_ne.2 hk]

theorem ordered_mergeMembers {ns : List (String × Setting)}
    (hns : Keyed.Ordered ns) :
    ∀ ms : List (String × Setting), Keyed.Ordered (mergeMembers ms ns)
  | [] => hns
  | (k, a) :: ms => by
      rw [mergeMembers]
      split
      · exact (ordered_mergeMembers hns ms).put _ _
      · exact (ordered_mergeMembers hns ms).put _ _

end Setting

-- ========================================================== trees and shapes

/-- Whether a setting can stand where a shape is wanted. What is in a table
is not looked at. -/
def Stands (s : Shape) (t : Setting) : Prop :=
  (s.IsSection ∧ t.IsTable)
    ∨ (s.IsPlain ∧ t.IsScalar ∧ ∃ v, ofSetting s t = .ok v)

/-- Whether along each path of a shape a tree has nothing, or something that
can stand there. -/
def Suits (s : Shape) (t : Setting) : Prop :=
  ∀ path sub, s.at? path = some sub → ∀ u ∈ t.at? path, Stands sub u

section Merging

variable {s : Shape} {t u : Setting}

theorem Suits.stands (h : Suits s t) : Stands s t := h [] s rfl t rfl

/-- What suits a shape does so in each of its parts. -/
theorem Suits.part (h : Suits s t) {path : List String} {sub : Shape}
    (hsub : s.at? path = some sub) (hu : t.at? path = some u) :
    Suits sub u := by
  intro rest sub' hsub' v hv
  refine h (path ++ rest) sub' ?_ v ?_
  · rw [Shape.at?_append, hsub]
    exact hsub'
  · rw [Setting.at?_append, hu]
    exact hv

theorem Suits.member {name : String} {filled : Bool} {fields : Fields}
    {source : Source} {members : List (String × Setting)}
    (h : Suits (.record name filled fields) (.table source members))
    {key : String} {sub : Shape} (hsub : fields.shape? key = some sub)
    {a : Setting} (ha : members.lookup key = some a) : Suits sub a := by
  have hshape : (Shape.record name filled fields).at? [key] = some sub := by
    rw [Shape.at?, hsub]
    rfl
  refine h.part hshape ?_
  rw [Setting.at?, Setting.member?, ha]
  rfl

/-- Where a shape has members, a tree that suits it is a table. -/
theorem Suits.table {name : String} {filled : Bool} {fields : Fields}
    (h : Suits (.record name filled fields) t) :
    ∃ source members, t = .table source members ∧ Keyed.Ordered members := by
  rcases h.stands with ⟨-, ht⟩ | ⟨hplain, -⟩
  · exact ht
  · exact hplain.elim

/-- Along the paths of a shape, two trees are merged one by one. -/
theorem merge_at? (ht : Suits s t) (hu : Suits s u) {path : List String}
    {sub : Shape} (hpath : s.at? path = some sub) :
    (t.merge u).at? path
      = Option.merge Setting.merge (t.at? path) (u.at? path) := by
  induction path generalizing s t u with
  | nil => rfl
  | cons key path ih =>
      cases s with
      | record name filled fields =>
          obtain ⟨source, ms, rfl, -⟩ := ht.table
          obtain ⟨source', ns, rfl, -⟩ := hu.table
          rw [Shape.at?] at hpath
          obtain ⟨shape, hshape, hpath⟩ := Option.bind_eq_some_iff.1 hpath
          simp only [Setting.merge, Setting.at?, Setting.member?,
            Setting.lookup_mergeMembers]
          cases ha : ms.lookup key with
          | none => simp only [Option.merge_none_left, Option.bind_none]
          | some a =>
              cases hb : ns.lookup key with
              | none => simp only [Option.merge_none_right, Option.bind_none]
              | some b =>
                  exact ih (ht.member hshape ha) (hu.member hshape hb) hpath
      | _ => cases hpath

/-- What can stand somewhere still can after merging. -/
theorem Stands.merge {sub : Shape} {a b : Setting} (ha : Stands sub a)
    (hb : Stands sub b) : Stands sub (a.merge b) := by
  rcases hb with ⟨hsection, htb⟩ | ⟨hplain, hsb, hread⟩
  · rcases ha with ⟨-, hta⟩ | ⟨hplain, -⟩
    · obtain ⟨source, ms, rfl, -⟩ := hta
      obtain ⟨source', ns, rfl, hns⟩ := htb
      exact .inl ⟨hsection, source', _, rfl,
        Setting.ordered_mergeMembers hns ms⟩
    · exact (hsection.not_isPlain hplain).elim
  · rw [Setting.merge_scalar a hsb]
    exact .inr ⟨hplain, hsb, hread⟩

/-- Two trees that suit a shape are merged into one that does. -/
theorem Suits.merge (ht : Suits s t) (hu : Suits s u) :
    Suits s (t.merge u) := by
  intro path sub hpath v hv
  rw [merge_at? ht hu hpath] at hv
  have hta := ht path sub hpath
  have hub := hu path sub hpath
  cases ha : t.at? path with
  | none => exact hub v (by simpa [ha] using hv)
  | some a =>
      cases hb : u.at? path with
      | none => exact hta v (by simpa [ha, hb] using hv)
      | some b =>
          have hv : a.merge b = v := by simpa [ha, hb] using hv
          rw [← hv]
          exact (hta a ha).merge (hub b hb)

/-- Where the shape wants something without members, the later tree wins. -/
theorem merge_at?_of_plain (ht : Suits s t) (hu : Suits s u)
    {path : List String} {sub : Shape} (hpath : s.at? path = some sub)
    (hplain : sub.IsPlain) :
    (t.merge u).at? path = (u.at? path).or (t.at? path) := by
  rw [merge_at? ht hu hpath]
  cases hb : u.at? path with
  | none => cases t.at? path <;> rfl
  | some b =>
      cases ha : t.at? path with
      | none => rfl
      | some a =>
          rcases hu path sub hpath b hb with ⟨hsection, -⟩ | ⟨-, hscalar, -⟩
          · exact (hsection.not_isPlain hplain).elim
          · exact congrArg some (Setting.merge_scalar a hscalar)

end Merging

end Settings

end PatternCheck
