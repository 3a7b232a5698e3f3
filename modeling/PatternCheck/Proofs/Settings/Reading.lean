import PatternCheck.Proofs.Settings.Paths

/-
Trees of settings, read by shape. A record is read member by member, and
those that the shape does not know do not count (`ofSetting_known`). A
tree that suits a shape is read, and along each path of the shape the
document that comes out has what is made of the setting there
(`isRead_of_suits`): so what is said about a whole configuration is said one
path at a time.
-/

namespace PatternCheck

open Json (Value)

-- =============================================================== look-ups

/-- In an object the last member of a key counts. -/
theorem Json.Value.lookup_eq (key : String) (ms : List (String × Value)) :
    Value.lookup key ms = ms.reverse.lookup key := by
  rw [Value.lookup]
  induction ms.reverse with
  | nil => rfl
  | cons m rest ih =>
      obtain ⟨k, v⟩ := m
      by_cases hk : key = k
      · simp [hk]
      · have hk' : (k == key) = false := beq_eq_false_iff_ne.2 (Ne.symm hk)
        rw [List.find?_cons_of_neg (by simp [hk']), ih, List.lookup_cons,
          beq_eq_false_iff_ne.2 hk]

/-- Where keys are different, so does the first one. -/
theorem Json.Value.lookup_of_nodup {ms : List (String × Value)}
    (h : (ms.map (·.1)).Nodup) (key : String) :
    Value.lookup key ms = ms.lookup key := by
  rw [Value.lookup_eq, ← Keyed.lookup_ofList, Keyed.lookup_ofList_of_nodup h]

namespace Settings

-- ================================================================ members

/-- What a record does not know is passed over. -/
theorem memberNamed_of_none {key : String} (t : Setting) : ∀ {fields : Fields},
    fields.shape? key = none → memberNamed key fields t = .ok none
  | .nil, _ => by rw [memberNamed]
  | .cons name shape rest, h => by
      rw [Fields.shape?] at h
      split at h
      · cases h
      · next hne => rw [memberNamed, if_neg hne, memberNamed_of_none t h]

/-- What it knows is read by its shape, and reported under its key. -/
theorem memberNamed_of_some {key : String} {s : Shape} (t : Setting) :
    ∀ {fields : Fields},
    fields.shape? key = some s → memberNamed key fields t
      = ((ofSetting s t).mapError (·.under key)).map fun v => some (key, v)
  | .cons name shape rest, h => by
      rw [Fields.shape?] at h
      rw [memberNamed]
      split at h
      · next heq =>
          cases h
          rw [if_pos heq]
          cases ofSetting s t <;> rfl
      · next hne => rw [if_neg hne, memberNamed_of_some t h]

theorem memberNamed_of_ok {key : String} {s : Shape} {t : Setting} {v : Value}
    {fields : Fields} (hs : fields.shape? key = some s)
    (hv : ofSetting s t = .ok v) :
    memberNamed key fields t = .ok (some (key, v)) := by
  rw [memberNamed_of_some t hs, hv]
  rfl

/-- What is made of a member of a record. -/
def readMember (fields : Fields) (m : String × Setting) :
    Option (String × Value) :=
  (fields.shape? m.1).bind fun s => (ofSetting s m.2).toOption.map (m.1, ·)

/-- Whether all members that a record knows can be read. -/
def Readable (fields : Fields) (members : List (String × Setting)) : Prop :=
  ∀ m ∈ members, ∀ s, fields.shape? m.1 = some s → ∃ v, ofSetting s m.2 = .ok v

/-- Where everything can be read, everything is. -/
theorem filterMapM_memberNamed {fields : Fields}
    {members : List (String × Setting)} (h : Readable fields members) :
    members.filterMapM (fun (key, inner) => memberNamed key fields inner)
      = .ok (members.filterMap (readMember fields)) := by
  induction members with
  | nil => rfl
  | cons m rest ih =>
      obtain ⟨hm, hrest⟩ := List.forall_mem_cons.1 h
      obtain ⟨key, t⟩ := m
      rw [List.filterMapM_cons, List.filterMap_cons, ih hrest]
      dsimp only at hm ⊢
      cases hs : fields.shape? key with
      | none =>
          simp [memberNamed_of_none t hs, readMember, hs, bind, Except.bind]
      | some s =>
          obtain ⟨v, hv⟩ := hm s hs
          simp [memberNamed_of_ok hs hv, readMember, hs, hv, Except.toOption,
            bind, Except.bind, pure, Except.pure]

/-- Members that a record does not know do not count. -/
theorem filterMapM_known (fields : Fields)
    (members : List (String × Setting)) :
    members.filterMapM (fun (key, inner) => memberNamed key fields inner)
      = (members.filter fun m => (fields.shape? m.1).isSome).filterMapM
        (fun (key, inner) => memberNamed key fields inner) := by
  induction members with
  | nil => rfl
  | cons m rest ih =>
      obtain ⟨key, t⟩ := m
      rw [List.filterMapM_cons]
      cases hs : fields.shape? key with
      | none =>
          rw [List.filter_cons_of_neg (by simp [hs]), ← ih]
          dsimp only
          rw [memberNamed_of_none t hs]
          rfl
      | some s =>
          rw [List.filter_cons_of_pos (by simp [hs]),
            List.filterMapM_cons, ← ih]

/-- What a record does not know may as well not be there. -/
theorem ofSetting_known (name : String) (fields : Fields) (source : Source)
    (members : List (String × Setting)) :
    ofSetting (.record name true fields) (.table source members)
      = ofSetting (.record name true fields)
        (.table source (members.filter fun m =>
          (fields.shape? m.1).isSome)) := by
  rw [ofSetting, ofSetting, filterMapM_known]
  rfl

-- ================================================================ records

/-- A table is read member by member. -/
theorem ofSetting_record {name : String} {fields : Fields} {source : Source}
    {members : List (String × Setting)} (h : Readable fields members) :
    ofSetting (.record name true fields) (.table source members)
      = .ok (.object (members.filterMap (readMember fields))) := by
  rw [ofSetting]
  simp only [filterMapM_memberNamed h, bind, Except.bind, if_true, pure,
    Except.pure]

theorem readMember_key {fields : Fields} {m : String × Setting}
    {n : String × Value} (h : readMember fields m = some n) : n.1 = m.1 := by
  obtain ⟨s, -, h⟩ := Option.bind_eq_some_iff.1 h
  obtain ⟨v, -, rfl⟩ := Option.map_eq_some_iff.1 h
  rfl

/-- The members that were read have the keys that they had, in the same
order. -/
theorem ordered_readMembers {fields : Fields}
    {members : List (String × Setting)} (h : Keyed.Ordered members) :
    Keyed.Ordered (members.filterMap (readMember fields)) := by
  refine List.Pairwise.filterMap _ (fun m m' hlt n hn n' hn' => ?_) h
  rw [readMember_key hn, readMember_key hn']
  exact hlt

/-- Under a key is what is made of the setting there, if the record knows
it. -/
theorem lookup_readMembers {fields : Fields}
    {members : List (String × Setting)} (h : Readable fields members)
    (key : String) :
    (members.filterMap (readMember fields)).lookup key
      = (members.lookup key).bind fun t =>
        (fields.shape? key).bind fun s => (ofSetting s t).toOption := by
  induction members with
  | nil => rfl
  | cons m rest ih =>
      obtain ⟨hm, hrest⟩ := List.forall_mem_cons.1 h
      obtain ⟨k, t⟩ := m
      rw [List.filterMap_cons]
      by_cases hk : key = k
      · subst hk
        rw [List.lookup_cons, beq_self_eq_true, readMember]
        cases hs : fields.shape? key with
        | none => simp [ih hrest, hs]
        | some s =>
            obtain ⟨v, hv⟩ := hm s hs
            simp [hv, Except.toOption]
      · rw [List.lookup_cons, beq_eq_false_iff_ne.2 hk, ← ih hrest]
        cases hn : readMember fields (k, t) with
        | none => rfl
        | some n =>
            obtain ⟨k', v⟩ := n
            obtain rfl : k' = k := readMember_key hn
            simp [List.lookup_cons, beq_eq_false_iff_ne.2 hk]

-- ============================================================== whole trees

/-- Whether a tree is read, with along each path of the shape what is made
of the setting there. -/
def IsRead (s : Shape) (t : Setting) : Prop :=
  ∃ v, ofSetting s t = .ok v ∧ ∀ path sub, s.at? path = some sub →
    v.at? path = (t.at? path).bind fun u => (ofSetting sub u).toOption

theorem isRead_plain {s : Shape} {t : Setting} (hs : s.IsPlain) {v : Value}
    (hv : ofSetting s t = .ok v) : IsRead s t := by
  refine ⟨v, hv, fun path sub hpath => ?_⟩
  cases path with
  | nil =>
      cases hpath
      rw [Value.at?, Setting.at?, Option.bind_some, hv]
      rfl
  | cons key path =>
      cases s with
      | record => exact hs.elim
      | _ => cases hpath

/-- A table is read along all paths if its members are. -/
theorem isRead_record {name : String} {filled : Bool} {fields : Fields}
    (hfields : ∀ {key s}, fields.shape? key = some s → ∀ {t}, Suits s t →
      IsRead s t)
    {t : Setting} (ht : Suits (.record name filled fields) t) :
    IsRead (.record name filled fields) t := by
  have hfilled : filled = true := by
    rcases ht.stands with ⟨hsection, -⟩ | ⟨hplain, -⟩
    · exact hsection
    · exact hplain.elim
  subst hfilled
  obtain ⟨source, members, rfl, hordered⟩ := ht.table
  have hmember {key : String} {s : Shape} (hs : fields.shape? key = some s)
    {u : Setting} (hu : members.lookup key = some u) : IsRead s u :=
      hfields hs (ht.member hs hu)
  have hreadable : Readable fields members := by
    intro m hm s hs
    obtain ⟨v, hv, -⟩ := hmember hs (Keyed.lookup_of_mem hordered.nodup hm)
    exact ⟨v, hv⟩
  refine ⟨_, ofSetting_record hreadable, fun path sub hpath => ?_⟩
  cases path with
  | nil =>
      cases hpath
      rw [Value.at?, Setting.at?, Option.bind_some, ofSetting_record hreadable]
      rfl
  | cons key path =>
      rw [Shape.at?] at hpath
      obtain ⟨s, hs, hpath⟩ := Option.bind_eq_some_iff.1 hpath
      rw [Value.at?, Value.get?,
        Value.lookup_of_nodup (ordered_readMembers hordered).nodup,
        lookup_readMembers hreadable, Setting.at?, Setting.member?, hs]
      cases hu : members.lookup key with
      | none => rfl
      | some u =>
          obtain ⟨v, hv, hparts⟩ := hmember hs hu
          rw [Option.bind_some, Option.bind_some, Option.bind_some, hv,
            ← hparts path sub hpath]
          rfl

mutual

/-- A tree that suits a shape is read by it. -/
theorem isRead_of_suits : ∀ (s : Shape) {t : Setting}, Suits s t → IsRead s t
  | .record _ _ fields, _, h => isRead_record (isRead_member fields) h
  | .boolean, _, h | .text, _, h | .path, _, h | .address, _,
    h | .natural _ _, _, h
  | .choice _ _, _, h | .optional _, _, h => by
      rcases h.stands with ⟨hsection, -⟩ | ⟨hplain, -, v, hv⟩
      · exact hsection.elim
      · exact isRead_plain hplain hv

theorem isRead_member : ∀ (fields : Fields) {key : String} {s : Shape},
    fields.shape? key = some s → ∀ {t : Setting}, Suits s t → IsRead s t
  | .cons name shape rest, key, s, h, t, ht => by
      rw [Fields.shape?] at h
      by_cases hname : name = key
      · rw [if_pos hname] at h
        cases h
        exact isRead_of_suits shape ht
      · rw [if_neg hname] at h
        exact isRead_member rest h ht

end

end Settings

end PatternCheck
