import PatternCheck.Proofs.Settings.Sources
import PatternCheck.Shape.Document

/-
Documents that fit a shape, as settings. What is read of the settings is
what is read of the document itself (`readers_agree`): the two readers
differ only in what they make of documents that do not fit. And such
settings suit the shape (`suits_document`), since along its paths they have
what the document has there.
-/

namespace PatternCheck.Settings

open Json (Value)

variable {extra : Prop}

-- ========================================================== parts that fit

/-- A member that fits a record fits what the record wants under its key. -/
theorem fits_member :
    ∀ {fields : Fields} {m : String × Value}, MemberFits extra fields m →
    ∀ {s : Shape}, fields.shape? m.1 = some s → s.Fits extra m.2
  | .cons name shape rest, _, h, s, hs => by
      rw [Fields.shape?] at hs
      cases h with
      | here hfits =>
          rw [if_pos rfl] at hs
          cases hs
          exact hfits
      | there hne hrest =>
          rw [if_neg hne] at hs
          exact fits_member hrest hs

/-- A member fits by its key; what a record does not know may be there or
not. -/
theorem memberFits_of_shape? : ∀ {fields : Fields} {m : String × Value},
    (∀ s, fields.shape? m.1 = some s → s.Fits extra m.2) →
      (fields.shape? m.1 = none → extra) →
      MemberFits extra fields m
  | .nil, _, _, hextra => .extra (hextra rfl)
  | .cons name shape rest, (key, v), hfits, hextra => by
      by_cases hname : name = key
      · subst hname
        exact .here (hfits shape (if_pos rfl))
      · have hrest :
            (Fields.cons name shape rest).shape? key = rest.shape? key :=
          if_neg hname
        exact .there hname
          (memberFits_of_shape? (fun s hs => hfits s (hrest.trans hs))
          fun hnone => hextra (hrest.trans hnone))

/-- Along the paths of a shape that it fits, a document has as settings
what it has there, and this fits as well. -/
theorem at?_document (source : Source) :
    ∀ (path : List String) {s sub : Shape} {v : Value},
    s.Fits extra v → s.at? path = some sub →
      (Setting.ofDocument source v).at? path
        = (v.at? path).map (Setting.ofDocument source) ∧
        ∀ u ∈ v.at? path, sub.Fits extra u
  | [], _, _, _, hfits, hsub => by
      cases hsub
      exact ⟨rfl, fun u hu => Option.some.inj hu ▸ hfits⟩
  | key :: path, s, sub, v, hfits, hsub => by
      cases hfits with
      | @record name filled fields members hnodup hmissing hmembers =>
          rw [Shape.at?] at hsub
          obtain ⟨shape, hshape, hsub⟩ := Option.bind_eq_some_iff.1 hsub
          rw [Setting.at?, Setting.member?_ofDocument,
            Keyed.lookup_ofList_of_nodup hnodup, Value.at?, Value.get?,
            Value.lookup_of_nodup hnodup]
          cases hu : members.lookup key with
          | none => exact ⟨rfl, fun u hu => by cases hu⟩
          | some u =>
              have hmember :=
                fits_member (hmembers _ (Keyed.mem_of_lookup hu)) hshape
              exact at?_document source path hmember hsub
      | _ => cases hsub

-- ============================================================ two readers

theorem filterMapM_congr {fields : Fields} {source : Source} :
    ∀ {members : List (String × Value)},
    (∀ m ∈ members, ∃ o, Shape.memberNamed m.1 fields m.2 = .ok o ∧
      memberNamed m.1 fields (.ofDocument source m.2) = .ok o) →
    ∃ read, members.filterMapM (fun (key, v) => Shape.memberNamed key fields v)
      = .ok read ∧
        (members.map fun m => (m.1, Setting.ofDocument source m.2)).filterMapM
        (fun (key, t) => memberNamed key fields t) = .ok read
  | [], _ => ⟨[], rfl, rfl⟩
  | (key, v) :: rest, h => by
      obtain ⟨⟨o, hdocument, hsetting⟩, hrest⟩ := List.forall_mem_cons.1 h
      obtain ⟨read, hdocuments, hsettings⟩ := filterMapM_congr hrest
      dsimp only at hdocument hsetting
      cases o with
      | none =>
          refine ⟨read, ?_, ?_⟩
          · rw [List.filterMapM_cons, hdocuments]
            dsimp only
            rw [hdocument]
            rfl
          · rw [List.map_cons, List.filterMapM_cons, hsettings]
            dsimp only
            rw [hsetting]
            rfl
      | some m =>
          refine ⟨m :: read, ?_, ?_⟩
          · rw [List.filterMapM_cons, hdocuments]
            dsimp only
            rw [hdocument]
            rfl
          · rw [List.map_cons, List.filterMapM_cons, hsettings]
            dsimp only
            rw [hsetting]
            rfl

theorem choice_agree {names : List String} {t : String} (h : t ∈ names)
    (name : String) (source : Source) :
    Shape.choiceIn names (.string t) = .ok (.string t) ∧
      (Setting.ofDocument source (.string t)).choice name names
        = .ok (.string t) := by
  constructor
  · rw [Shape.choiceIn, Shape.choice?, if_pos h]
  · rw [Setting.ofDocument, Setting.choice]
    dsimp only
    rw [Shape.choice?, if_pos h]

/-- A record is read alike if its members are. -/
theorem record_agree {name : String} {filled : Bool} {fields : Fields}
    {source : Source} {members : List (String × Value)}
    (hnodup : (members.map (·.1)).Nodup)
    (hmissing : filled = false → fields.missing? (members.map (·.1)) = none)
    (hmembers : ∀ m ∈ members, ∃ o, Shape.memberNamed m.1 fields m.2 = .ok o ∧
      memberNamed m.1 fields (.ofDocument source m.2) = .ok o) :
    ∃ w, Shape.ofValue (.record name filled fields) (.object members) = .ok w ∧
      ofSetting (.record name filled fields)
        (.ofDocument source (.object members)) = .ok w := by
  have hmem {m : String × Value} : m ∈ Keyed.ofList members ↔ m ∈ members :=
    Keyed.mem_ofList hnodup
  obtain ⟨read, hdocuments, hsettings⟩ :=
    filterMapM_congr fun m hm => hmembers m (hmem.1 hm)
  have hkeys : fields.missing? ((Keyed.ofList members).map (·.1))
      = fields.missing? (members.map (·.1)) :=
    Fields.missing?_congr (by simp [hmem]) fields
  have hfound :
      (if filled then none
        else fields.missing? ((Keyed.ofList members).map (·.1))) = none := by
    cases filled with
    | true => rfl
    | false => exact hkeys.trans (hmissing rfl)
  have hmap :
      ((Keyed.ofList members).map fun m =>
        (m.1, Setting.ofDocument source m.2)).map (·.1)
        = (Keyed.ofList members).map (·.1) := by
    rw [List.map_map]
    rfl
  refine ⟨.object read, ?_, ?_⟩
  · rw [Shape.ofValue]
    simp only [hdocuments, hfound, bind, Except.bind, pure, Except.pure]
  · rw [Setting.ofDocument, Setting.ofMembers_eq, Keyed.ofList_map, ofSetting]
    simp only [hsettings, hmap, hfound, bind, Except.bind, pure, Except.pure]

mutual

/-- What fits a shape is read alike as a document and as settings; without
members, it is read as it is. -/
theorem readers_agree (source : Source) :
    ∀ (s : Shape) {v : Value}, s.Fits extra v →
    ∃ w, s.ofValue v = .ok w ∧ ofSetting s (.ofDocument source v) = .ok w
      ∧ (s.IsPlain → w = v)
  | .boolean, _, .boolean b =>
      ⟨.bool b, by rw [Shape.ofValue], by rw [Setting.ofDocument, ofSetting],
        fun _ => rfl⟩
  | .text, _, .text s =>
      ⟨.string s, by rw [Shape.ofValue],
        by rw [Setting.ofDocument, ofSetting]; rfl, fun _ => rfl⟩
  | .path, _, .path s =>
      ⟨.string s, by rw [Shape.ofValue],
        by rw [Setting.ofDocument, ofSetting]; rfl, fun _ => rfl⟩
  | .address, _, .address (s := s) h => by
      have haddress := Shape.address?_of_isSome h
      refine ⟨.string s, by rw [Shape.ofValue, haddress], ?_, fun _ => rfl⟩
      rw [Setting.ofDocument, ofSetting, Setting.textThat]
      simp only [Setting.text?, haddress]
  | .natural name bound, _, .natural (n := n) h => by
      refine ⟨.ofNat n, ?_, ?_, fun _ => rfl⟩
      · rw [Shape.ofValue, Shape.natural?, if_pos h]
        rfl
      · rw [Setting.ofDocument, ofSetting, Setting.natural]
        dsimp only
        rw [if_pos h]
  | .choice name names, _, .choice (s := t) h => by
      obtain ⟨hdocument, hsetting⟩ := choice_agree h name source
      exact ⟨.string t, by rw [Shape.ofValue, hdocument], by rw [ofSetting,
        hsetting], fun _ => rfl⟩
  | .optional shape, _, .absent =>
      ⟨.null, by rw [Shape.ofValue], by rw [Setting.ofDocument, ofSetting],
        fun _ => rfl⟩
  | .optional shape, v, .present h => by
      obtain ⟨w, hdocument, hsetting, hplain⟩ := readers_agree source shape h
      cases v with
      | null =>
          exact ⟨.null, by rw [Shape.ofValue], by rw [Setting.ofDocument,
            ofSetting], fun _ => rfl⟩
      | number n =>
          refine ⟨w, by rw [Shape.ofValue, hdocument]; simp, ?_, hplain⟩
          rw [← hsetting]
          cases n <;> rw [Setting.ofDocument, ofSetting] <;> simp
      | _ =>
          refine ⟨w, by rw [Shape.ofValue, hdocument]; simp, ?_, hplain⟩
          rw [← hsetting, Setting.ofDocument, ofSetting]
          simp
  | .record _ _ fields, _, .record hnodup hmissing hmembers => by
      obtain ⟨w, hdocument, hsetting⟩ :=
        record_agree hnodup hmissing fun m hm =>
          members_agree source fields (hmembers m hm)
      exact ⟨w, hdocument, hsetting, fun hplain => hplain.elim⟩

/-- Both readers pass over what a record does not know. -/
theorem members_agree (source : Source) :
    ∀ (fields : Fields) {m : String × Value},
    MemberFits extra fields m →
      ∃ o, Shape.memberNamed m.1 fields m.2 = .ok o ∧
        memberNamed m.1 fields (.ofDocument source m.2) = .ok o
  | .nil, m, _ => ⟨none, by rw [Shape.memberNamed], by rw [memberNamed]⟩
  | .cons name shape rest, m, h => by
      rw [Shape.memberNamed, memberNamed]
      by_cases hname : name = m.1
      · have hfits := fits_member h (by rw [Fields.shape?, if_pos hname])
        obtain ⟨w, hdocument, hsetting, -⟩ := readers_agree source shape hfits
        rw [if_pos hname, if_pos hname, hdocument, hsetting]
        exact ⟨some (m.1, w), rfl, rfl⟩
      · rw [if_neg hname, if_neg hname]
        cases h with
        | here => exact absurd rfl hname
        | there hne hrest => exact members_agree source rest hrest

end

-- ================================================================ settings

/-- What fits a shape without members has none. -/
theorem isScalar_of_fits (source : Source) :
    ∀ (s : Shape) {v : Value}, s.IsPlain →
    s.Fits extra v → (Setting.ofDocument source v).IsScalar
  | .boolean, _, _, .boolean b =>
      ⟨source, .boolean b, by rw [Setting.ofDocument]⟩
  | .text, _, _, .text s | .path, _, _, .path s | .address, _, _,
    .address (s := s) _
  | .choice _ _, _, _, .choice (s := s) _ =>
      ⟨source, .text s, by rw [Setting.ofDocument]⟩
  | .natural _ _, _, _, .natural (n := n) _ =>
      ⟨source, .unsigned n, by rw [Setting.ofDocument]⟩
  | .optional _, _, _, .absent => ⟨source, .null, by rw [Setting.ofDocument]⟩
  | .optional s, _, hplain, .present h => isScalar_of_fits source s hplain h
  | .record .., _, hplain, _ => hplain.elim

/-- As settings, what fits a shape suits it. -/
theorem suits_document {s : Shape} (hs : s.IsFilled) {v : Value}
    (h : s.Fits extra v) (source : Source) :
    Suits s (.ofDocument source v) := by
  intro path sub hsub u hu
  obtain ⟨hat, hfits⟩ := at?_document source path h hsub
  rw [hat] at hu
  obtain ⟨w, hw, rfl⟩ := Option.map_eq_some_iff.1 hu
  have hfits := hfits w hw
  rcases hs path sub hsub with hsection | hplain
  · cases hfits with
    | record hnodup hmissing hmembers =>
        exact .inl ⟨hsection, source, _, by
          rw [Setting.ofDocument], Keyed.ordered_ofList _⟩
    | _ => exact hsection.elim
  · obtain ⟨x, -, hx, -⟩ := readers_agree source sub hfits
    exact .inr ⟨hplain, isScalar_of_fits source sub hplain hfits, x, hx⟩

end PatternCheck.Settings
