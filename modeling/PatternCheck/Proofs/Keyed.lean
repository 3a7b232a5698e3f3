import PatternCheck.Keyed

/-
Ordered lists of members. A member is put where it belongs, so that the
list stays ordered; and an ordered list is known by its look-ups
(`Ordered.ext`). That two such lists are the same is therefore a matter of
one key at a time.
-/

namespace PatternCheck.Keyed

variable {α β : Type} {ms ns : List (String × α)} {key : String} {a : α}

-- ================================================================= order

/-- The keys of members grow from each one to the next. -/
def Ordered (ms : List (String × α)) : Prop := ms.Pairwise fun m n => m.1 < n.1

theorem ordered_nil : Ordered ([] : List (String × α)) := List.Pairwise.nil

theorem ordered_singleton (m : String × α) : Ordered [m] :=
  List.pairwise_singleton _ m

/-- In order, no key occurs twice. -/
theorem Ordered.nodup (h : Ordered ms) : (ms.map (·.1)).Nodup := by
  refine List.pairwise_map.2 (List.Pairwise.imp (fun hlt heq => ?_) h)
  rw [heq] at hlt
  exact String.lt_irrefl _ hlt

/-- Members that are left out leave the others in order. -/
theorem Ordered.filter (h : Ordered ms) (p : String × α → Bool) :
    Ordered (ms.filter p) :=
  h.sublist List.filter_sublist

theorem Ordered.map (h : Ordered ms) (f : α → β) :
    Ordered (ms.map fun m => (m.1, f m.2)) :=
  List.pairwise_map.2 h

/-- Members of a list after another one is put into it. -/
theorem mem_of_mem_put {m : String × α} (h : m ∈ put key a ms) :
    m = (key, a) ∨ m ∈ ms := by
  induction ms with
  | nil => exact .inl (List.mem_singleton.1 h)
  | cons n rest ih =>
      obtain ⟨k, b⟩ := n
      rw [put] at h
      split at h
      · exact (List.mem_cons.1 h)
      · split at h
        · exact (List.mem_cons.1 h).imp_right (List.mem_cons_of_mem _)
        · rcases List.mem_cons.1 h with rfl | h
          · exact .inr List.mem_cons_self
          · exact (ih h).imp_right (List.mem_cons_of_mem _)

/-- Whatever is put in, it is put at its place. -/
theorem Ordered.put (h : Ordered ms) (key : String) (a : α) :
    Ordered (put key a ms) := by
  induction ms with
  | nil => exact ordered_singleton _
  | cons n rest ih =>
      obtain ⟨k, b⟩ := n
      obtain ⟨hk, hrest⟩ := List.pairwise_cons.1 h
      rw [Keyed.put]
      by_cases hless : key < k
      · rw [if_pos hless]
        refine List.pairwise_cons.2
          ⟨List.forall_mem_cons.2 ⟨hless, fun m hm => ?_⟩, h⟩
        exact String.lt_trans hless (hk m hm)
      · rw [if_neg hless]
        by_cases heq : key = k
        · rw [if_pos heq]
          exact List.pairwise_cons.2 ⟨heq ▸ hk, hrest⟩
        · rw [if_neg heq]
          have hmore : k < key :=
            Std.lt_of_le_of_ne (String.not_lt.1 hless) (Ne.symm heq)
          refine List.pairwise_cons.2 ⟨fun m hm => ?_, ih hrest⟩
          rcases mem_of_mem_put hm with rfl | hm
          · exact hmore
          · exact hk m hm

-- =============================================================== look-ups

/-- What was put last under a key counts. -/
theorem lookup_put (key other : String) (a : α) (ms : List (String × α)) :
    (put key a ms).lookup other
      = if other = key then some a else ms.lookup other := by
  by_cases h : other = key
  · rw [h, if_pos rfl, lookup_put_self]
  · rw [if_neg h, lookup_put_of_ne h]

section

variable {κ : Type} [BEq κ] [LawfulBEq κ] {members : List (κ × α)} {k : κ}

/-- What is found under a key is a member. -/
theorem mem_of_lookup (h : members.lookup k = some a) : (k, a) ∈ members := by
  obtain ⟨before, after, rfl, -⟩ := List.lookup_eq_some_iff.1 h
  exact List.mem_append_right _ List.mem_cons_self

/-- Where keys are different, a member is what its key leads to. -/
theorem lookup_of_mem (hnodup : (members.map (·.1)).Nodup)
    (h : (k, a) ∈ members) : members.lookup k = some a := by
  obtain ⟨before, after, rfl⟩ := List.append_of_mem h
  refine List.lookup_eq_some_iff.2 ⟨before, after, rfl, fun m hm => ?_⟩
  rw [List.map_append] at hnodup
  have hne :=
    (List.nodup_append.1 hnodup).2.2 _ (List.mem_map_of_mem hm) k
      List.mem_cons_self
  simpa using fun heq => hne heq.symm

end

/-- If members are kept or left out by their keys, so are the things found. -/
theorem lookup_filter (p : String → Bool) (key : String)
    (ms : List (String × α)) :
    (ms.filter fun m => p m.1).lookup key
      = if p key then ms.lookup key else none := by
  induction ms with
  | nil => simp
  | cons m rest ih =>
      obtain ⟨k, b⟩ := m
      by_cases hk : key = k
      · subst hk
        cases hp : p key <;> simp [hp, ih]
      · cases hp : p k <;> simp [hp, ih, List.lookup_cons,
          beq_eq_false_iff_ne.2 hk]

theorem lookup_map (f : α → β) (key : String) (ms : List (String × α)) :
    (ms.map fun m => (m.1, f m.2)).lookup key = (ms.lookup key).map f := by
  induction ms with
  | nil => rfl
  | cons m rest ih =>
      obtain ⟨k, b⟩ := m
      by_cases hk : key = k
      · simp [hk]
      · simp [List.lookup_cons, beq_eq_false_iff_ne.2 hk, ih]

/-- Ordered lists that agree under each key are the same. -/
theorem Ordered.ext (hms : Ordered ms) (hns : Ordered ns)
    (h : ∀ key, ms.lookup key = ns.lookup key) : ms = ns := by
  have hmem (m : String × α) : m ∈ ms ↔ m ∈ ns := by
    constructor
    · intro hm
      exact mem_of_lookup ((h m.1).symm.trans (lookup_of_mem hms.nodup hm))
    · intro hm
      exact mem_of_lookup ((h m.1).trans (lookup_of_mem hns.nodup hm))
  have hnodup {ms : List (String × α)} (hms : Ordered ms) : ms.Nodup :=
    (List.pairwise_map.1 hms.nodup).imp fun hne heq => hne (congrArg _ heq)
  refine List.Perm.eq_of_pairwise (fun m n _ _ hmn hnm => ?_) hms hns
    ((List.perm_ext_iff_of_nodup (hnodup hms) (hnodup hns)).2 hmem)
  exact absurd hnm (String.lt_asymm hmn)

-- ========================================================== lists of members

/-- The last member is put in first when the list is read from behind, so
inductions on the rest have it on the outside. -/
theorem ofList_eq_foldr (ms : List (String × α)) :
    ofList ms = ms.reverse.foldr (fun m sorted => put m.1 m.2 sorted) [] := by
  rw [ofList, List.foldr_reverse]

theorem ordered_ofList (ms : List (String × α)) : Ordered (ofList ms) := by
  rw [ofList_eq_foldr]
  induction ms.reverse with
  | nil => exact ordered_nil
  | cons m rest ih => exact ih.put m.1 m.2

/-- The last member of each key counts. -/
theorem lookup_ofList (ms : List (String × α)) (key : String) :
    (ofList ms).lookup key = ms.reverse.lookup key := by
  rw [ofList_eq_foldr]
  induction ms.reverse with
  | nil => rfl
  | cons m rest ih =>
      obtain ⟨k, b⟩ := m
      rw [List.foldr_cons, lookup_put, ih]
      by_cases hk : key = k
      · simp [hk]
      · simp [hk, List.lookup_cons, beq_eq_false_iff_ne.2 hk]

/-- Where keys are different, there is only one member to count. -/
theorem lookup_ofList_of_nodup (hnodup : (ms.map (·.1)).Nodup) (key : String) :
    (ofList ms).lookup key = ms.lookup key := by
  rw [lookup_ofList]
  have hnodup' : (ms.reverse.map (·.1)).Nodup := by
    rw [List.map_reverse]
    exact (List.reverse_perm _).nodup_iff.2 hnodup
  cases h : ms.lookup key with
  | none =>
      rw [List.lookup_eq_none_iff] at h ⊢
      exact fun m hm => h m (List.mem_reverse.1 hm)
  | some a =>
      exact lookup_of_mem hnodup' (List.mem_reverse.2 (mem_of_lookup h))

/-- No member is lost where no key occurs twice. -/
theorem mem_ofList (hnodup : (ms.map (·.1)).Nodup) {m : String × α} :
    m ∈ ofList ms ↔ m ∈ ms := by
  have hlookup := lookup_ofList_of_nodup hnodup m.1
  constructor
  · intro h
    exact mem_of_lookup
      (hlookup.symm.trans (lookup_of_mem (ordered_ofList ms).nodup h))
  · intro h
    exact mem_of_lookup (hlookup.trans (lookup_of_mem hnodup h))

/-- It makes no difference whether members are left out before the others are
put in order or after. -/
theorem ofList_filter (p : String → Bool) (ms : List (String × α)) :
    ofList (ms.filter fun m => p m.1) = (ofList ms).filter fun m => p m.1 := by
  refine (ordered_ofList _).ext ((ordered_ofList ms).filter _) fun key => ?_
  rw [lookup_ofList, ← List.filter_reverse, lookup_filter, lookup_filter,
    lookup_ofList]

theorem ofList_map (f : α → β) (ms : List (String × α)) :
    ofList (ms.map fun m => (m.1, f m.2)) = (ofList ms).map fun m =>
      (m.1, f m.2) := by
  refine (ordered_ofList _).ext ((ordered_ofList ms).map f) fun key => ?_
  rw [lookup_ofList, ← List.map_reverse, lookup_map, lookup_map, lookup_ofList]

/-- An ordered list is in order already. -/
theorem Ordered.ofList (h : Ordered ms) : ofList ms = ms :=
  (ordered_ofList ms).ext h (lookup_ofList_of_nodup h.nodup)

end PatternCheck.Keyed
