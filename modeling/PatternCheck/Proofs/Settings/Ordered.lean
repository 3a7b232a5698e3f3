import PatternCheck.Proofs.Settings.Sources
import PatternCheck.Proofs.Text.Scan

/-
Trees of settings in good order. In every tree that is ever made, each table
has its members in the order of their keys, so that a path leads to one thing
at most (`Setting.Ordered`): this is so for documents, files and variables,
and merging keeps it. With the order a property of the things without parts
is carried along, since some sources never give all of them: nothing in the
environment is null (`ordered_ofEnvironment`).
-/

namespace PatternCheck

namespace Keyed

/-- Whatever is under a key was put there. -/
theorem mem_of_mem_ofList {α : Type} {ms : List (String × α)} {m : String × α}
    (h : m ∈ ofList ms) : m ∈ ms := by
  rw [ofList_eq_foldr] at h
  rw [← List.mem_reverse]
  generalize ms.reverse = reversed at h ⊢
  induction reversed with
  | nil => exact h
  | cons n rest ih =>
    rcases mem_of_mem_put h with rfl | h
    · exact List.mem_cons_self ..
    · exact List.mem_cons_of_mem _ (ih h)

end Keyed

namespace Settings

open Log (Environment)
open Text (Scan)

-- ================================================================== trees

/-- Whether the tables in a tree have their members in order, and the things
without parts in it have a property. -/
inductive Setting.Ordered (p : Scalar → Prop) : Setting → Prop
  | scalar {source : Source} {value : Scalar} : p value →
    Setting.Ordered p (.scalar source value)
  | list {source : Source} {items : List Setting} :
    (∀ a ∈ items, Setting.Ordered p a) → Setting.Ordered p (.list source items)
  | table {source : Source} {members : List (String × Setting)} :
    Keyed.Ordered members → (∀ m ∈ members, Setting.Ordered p m.2) →
    Setting.Ordered p (.table source members)

variable {p q : Scalar → Prop}

namespace Setting.Ordered

/-- A property that follows from another one may be carried along in its
place. -/
theorem mono {t : Setting} (h : t.Ordered p)
    (hpq : ∀ value, p value → q value) : t.Ordered q := by
  induction h with
  | scalar h => exact .scalar (hpq _ h)
  | list _ ih => exact .list ih
  | table order _ ih => exact .table order ih

/-- A path leads to a tree in good order. -/
theorem at? {t u : Setting} (h : t.Ordered p) {path : List String}
    (hu : t.at? path = some u) : u.Ordered p := by
  induction path generalizing t with
  | nil =>
    cases hu
    exact h
  | cons key path ih =>
    cases h with
    | scalar | list => cases hu
    | table _ members =>
      rw [Setting.at?, member?] at hu
      obtain ⟨a, ha, hu⟩ := Option.bind_eq_some_iff.1 hu
      exact ih (members _ (Keyed.mem_of_lookup ha)) hu

end Setting.Ordered

-- =============================================================== documents

/-- Members that are put in order. -/
theorem ordered_table (source : Source) {members : List (String × Setting)}
    (h : ∀ m ∈ members, m.2.Ordered p) :
    (Setting.table source (Keyed.ofList members)).Ordered p :=
  .table (Keyed.ordered_ofList members) fun m hm =>
    h m (Keyed.mem_of_mem_ofList hm)

mutual

/-- A document makes a tree in good order. -/
theorem ordered_ofDocument (source : Source) :
    ∀ v : Json.Value, (Setting.ofDocument source v).Ordered fun _ => True
  | .null | .bool _ | .number (.natural _) | .number (.negative _) | .number
    (.decimal ..)
  | .string _ => .scalar trivial
  | .array items => .list (ordered_ofDocuments source items)
  | .object members => ordered_table source (ordered_ofMembers source members)

/-- The same for the items of a list. -/
theorem ordered_ofDocuments (source : Source) :
    ∀ items, ∀ a ∈ Setting.ofDocuments source items, a.Ordered fun _ => True
  | [], _, h => (List.not_mem_nil h).elim
  | v :: rest, a, h => by
      rcases List.mem_cons.1 h with rfl | h
      · exact ordered_ofDocument source v
      · exact ordered_ofDocuments source rest a h

/-- The same for the members of an object. -/
theorem ordered_ofMembers (source : Source) :
    ∀ members, ∀ m ∈ Setting.ofMembers source members, m.2.Ordered fun _ =>
      True
  | [], _, h => (List.not_mem_nil h).elim
  | (key, v) :: rest, m, h => by
      rcases List.mem_cons.1 h with rfl | h
      · exact ordered_ofDocument source v
      · exact ordered_ofMembers source rest m h

end

mutual

/-- So does a file, in which nothing is null. -/
theorem ordered_ofToml (source : Source) :
    ∀ v : Toml.Value, (Setting.ofToml source v).Ordered (· ≠ .null)
  | .string _ | .integer _ | .float _ | .boolean _ => .scalar nofun
  | .array items => .list (ordered_ofTomlItems source items)
  | .table members =>
      ordered_table source (ordered_ofTomlMembers source members)

theorem ordered_ofTomlItems (source : Source) :
    ∀ items, ∀ a ∈ Setting.ofTomlItems source items, a.Ordered (· ≠ .null)
  | [], _, h => (List.not_mem_nil h).elim
  | v :: rest, a, h => by
      rcases List.mem_cons.1 h with rfl | h
      · exact ordered_ofToml source v
      · exact ordered_ofTomlItems source rest a h

theorem ordered_ofTomlMembers (source : Source) :
    ∀ members, ∀ m ∈ Setting.ofTomlMembers source members,
      m.2.Ordered (· ≠ .null)
  | [], _, h => (List.not_mem_nil h).elim
  | (key, v) :: rest, m, h => by
      rcases List.mem_cons.1 h with rfl | h
      · exact ordered_ofToml source v
      · exact ordered_ofTomlMembers source rest m h

end

-- ================================================================ merging

mutual

/-- Two trees in good order are merged into one. -/
theorem ordered_merge :
    ∀ {t u : Setting}, t.Ordered p → u.Ordered p → (t.merge u).Ordered p
  | .table _ ms, .table source ns, ht, hu => by
      cases ht with
      | table _ hms =>
        cases hu with
        | table order hns =>
          exact .table (Setting.ordered_mergeMembers order ms)
            (ordered_mergedMembers hms hns)
  | .table .., .scalar .., _, hu | .table .., .list .., _, hu => hu
  | .scalar .., _, _, hu | .list .., _, _, hu => by
      rw [Setting.merge]
      · exact hu
      · exact nofun

/-- Each member comes from one of the trees or is merged of both. -/
theorem ordered_mergedMembers : ∀ {ms ns : List (String × Setting)},
    (∀ m ∈ ms, m.2.Ordered p) → (∀ n ∈ ns, n.2.Ordered p) →
      ∀ m ∈ Setting.mergeMembers ms ns, m.2.Ordered p
  | [], _, _, hns => hns
  | (key, a) :: ms, ns, hms, hns => by
      obtain ⟨ha, hms⟩ := List.forall_mem_cons.1 hms
      intro m hm
      rw [Setting.mergeMembers] at hm
      split at hm
      · next b hb =>
        rcases Keyed.mem_of_mem_put hm with rfl | hm
        · exact ordered_merge ha (hns _ (Keyed.mem_of_lookup hb))
        · exact ordered_mergedMembers hms hns m hm
      · rcases Keyed.mem_of_mem_put hm with rfl | hm
        · exact ha
        · exact ordered_mergedMembers hms hns m hm

end

-- ============================================================ environments

/-- Things with commas between them have what each of them has. -/
theorem yields_enclosedRest {α : Type} {p : α → Prop} {s : Scan α}
    (hs : Scan.Yields p s) (closing : Char) :
    ∀ fuel, Scan.Yields (fun as => ∀ a ∈ as, p a) (enclosedRest closing s fuel)
  | 0 => .failure
  | fuel + 1 => by
      rw [enclosedRest]
      refine .after _ fun closed => ?_
      split
      · exact .pure fun _ h => (List.not_mem_nil h).elim
      · refine .bind hs fun a ha => .after _ fun comma => ?_
        split
        · refine .bind (yields_enclosedRest hs closing fuel) fun as has =>
            .pure ?_
          exact List.forall_mem_cons.2 ⟨ha, has⟩
        · exact .after _ fun _ => .pure (List.forall_mem_singleton.2 ha)

/-- Items within a pair of brackets. -/
theorem yields_enclosed {α : Type} {p : α → Prop} {s : Scan α}
    (hs : Scan.Yields p s) (opening closing : Char) :
    Scan.Yields (fun as => ∀ a ∈ as, p a) (enclosed opening closing s) := by
  refine .after _ fun _ => ?_
  intro cs as rest h
  exact yields_enclosedRest hs closing (cs.length + 1) cs as rest h

theorem yields_spaced {α : Type} {p : α → Prop} {s : Scan α}
    (hs : Scan.Yields p s) : Scan.Yields p (spaced s) :=
  .after _ fun _ => .bind hs fun _ ha => .after _ fun _ => .pure ha

/-- A text that is no number is a text. -/
theorem integerOrText_ne_null (text : List Char) :
    integerOrText text ≠ .null := by
  rw [integerOrText]
  split
  · split <;> exact nofun
  · split
    · split <;> exact nofun
    · exact nofun

/-- What stands in a variable without marks is a number or a text. -/
theorem plainScalar_ne_null (text : List Char) : plainScalar text ≠ .null := by
  rw [plainScalar]
  split
  · split
    · exact nofun
    · exact integerOrText_ne_null text
  · exact integerOrText_ne_null text

/-- The value of a variable is a tree in good order, in which nothing is
null. -/
theorem yields_settingValue (source : Source) : ∀ depth,
    Scan.Yields (Setting.Ordered (· ≠ .null)) (settingValue source depth)
  | 0 => .failure
  | depth + 1 => by
      have inner := yields_settingValue source depth
      have simple {value : Scalar} (h : value ≠ .null) :
          Scan.Yields (Setting.Ordered (· ≠ .null))
          (pure (.scalar source value)) :=
        .pure (.scalar h)
      rw [settingValue]
      refine yields_spaced (.after _ fun isTrue => ?_)
      split
      · exact simple nofun
      refine .after _ fun isFalse => ?_
      split
      · exact simple nofun
      refine .after _ fun next => ?_
      split
      · have member :
            Scan.Yields (fun m : String × Setting =>
              m.2.Ordered (· ≠ .null)) (do
              let key ← spaced memberKey
              Scan.char '='
              return (key, ← settingValue source depth)) :=
          .after _ fun _ => .after _ fun _ => .bind inner fun _ ha => .pure ha
        exact .bind (yields_enclosed member _ _) fun _ hms =>
          .pure (ordered_table source hms)
      · exact .bind (yields_enclosed inner _ _) fun _ has => .pure (.list has)
      · exact .after _ fun _ => simple nofun
      · exact .after _ fun _ => .after _ fun _ => .after _ fun _ =>
          simple nofun
      · exact .after _ fun text => simple (plainScalar_ne_null _)

/-- The value of a variable has its tables in order, and nothing in it is
null. -/
theorem ordered_ofVariable (source : Source) (text : String) :
    (ofVariable source text).Ordered (· ≠ .null) := by
  rw [ofVariable]
  cases h : Scan.whole (settingValue source (text.toList.length + 1))
    text.toList with
  | none => exact .scalar nofun
  | some t => exact (yields_settingValue source _).whole h

/-- A table for each key on the way is in order with its one member. -/
theorem Setting.Ordered.nested {v : Setting} (h : v.Ordered p)
    (source : Source) : ∀ path : List String, (nested source path v).Ordered p
  | [] => h
  | _ :: path =>
      .table (Keyed.ordered_singleton _)
        (List.forall_mem_singleton.2 (h.nested source path))

/-- So has everything that variables say together. -/
theorem ordered_ofEnvironment (env : Environment) :
    (ofEnvironment env).Ordered (· ≠ .null) := by
  have step (vs : List (String × String)) :
      ∀ {tree : Setting}, tree.Ordered (· ≠ .null) →
        (vs.foldl addVariable tree).Ordered (· ≠ .null) := by
    induction vs with
    | nil => exact id
    | cons v vs ih =>
      intro tree h
      refine ih ?_
      rw [addVariable]
      split
      · exact ordered_merge h ((ordered_ofVariable _ _).nested _ _)
      · exact h
  rw [ofEnvironment_eq]
  exact step _ (.table Keyed.ordered_nil fun _ h => (List.not_mem_nil h).elim)

end Settings

end PatternCheck
