import PatternCheck.Proofs.Settings.Ordered

/-
What does not fit in a tree of settings. Reading ends at the first thing
that does not fit; here all such things are listed, each by the path of keys
that leads to it (`misfits`). Reading succeeds if there are none, and
otherwise it names the first one (`reports_ofSetting`).

What does not fit at the end of a path of the shape is in the list
(`mem_misfits_of_at?`), and if tables stand where the shape has records, or
lists that fit, there is nothing else in it (`exists_at?_of_mem_misfits`).
-/

namespace PatternCheck

open Json (Value)

-- ================================================================ settings

namespace Settings.Setting

/-- Whether a setting is a table. -/
def hasMembers : Setting → Bool
  | table .. => true
  | _ => false

/-- Whether a setting says that there is nothing. -/
def isNull : Setting → Bool
  | scalar _ .null => true
  | _ => false

/-- Whether a setting is a truth value. -/
def isBoolean : Setting → Bool
  | scalar _ (.boolean _) => true
  | _ => false

/-- Whether a setting is a natural number below a bound. -/
def isBelow (bound : Nat) : Setting → Bool
  | scalar _ (.unsigned n) => n < bound
  | scalar _ (.signed i) => 0 ≤ i && i.toNat < bound
  | _ => false

/-- Whether a setting is one of some names: as a text, or as the first key of
a table with nothing as its value. -/
def isOneOf (names : List String) : Setting → Bool
  | scalar _ (.text s) => s ∈ names
  | table _ ((key, inner) :: _) => key ∈ names && inner.isNull
  | _ => false

/-- The key of a setting that is one of some names, but has something as its
value. -/
def keyAmong (names : List String) : Setting → List String
  | table _ ((key, _) :: _) => if key ∈ names then [key] else []
  | _ => []

end Settings.Setting

open Settings (Setting Scalar Problem)

-- ================================================================== shapes

/-- Whether a shape without parts takes a setting. -/
def Shape.takes : Shape → Setting → Bool
  | .boolean, t => t.isBoolean
  | .text, t | .path, t => t.text?.isSome
  | .address, t => (t.text?.bind Net.Address.ofText?).isSome
  | .natural _ bound, t => t.isBelow bound
  | .choice _ names, t => t.isOneOf names
  | .optional s, t => t.isNull || s.takes t
  | .record .., _ => false

/-- Where in a setting that is not taken there is something wrong: the whole
of it, or what stands under a name. -/
def Shape.culprit : Shape → Setting → List String
  | .choice _ names, t => t.keyAmong names
  | .optional s, t => s.culprit t
  | _, _ => []

namespace Settings

/-- The misfits of a shape without parts. -/
def plainMisfits (s : Shape) (t : Setting) : List (List String) :=
  if s.takes t then [] else [s.culprit t]

mutual

/-- The paths of everything in a setting that does not fit a shape, in the
order in which it is read. -/
def misfits : Shape → Setting → List (List String)
  | .boolean, t => plainMisfits .boolean t
  | .text, t => plainMisfits .text t
  | .path, t => plainMisfits .path t
  | .address, t => plainMisfits .address t
  | .natural name bound, t => plainMisfits (.natural name bound) t
  | .choice name names, t => plainMisfits (.choice name names) t
  | .optional s, t => if t.isNull then [] else misfits s t
  | .record _ filled fields, t =>
    match t with
    | .table _ members =>
      (members.flatMap fun m => memberMisfits m.1 fields m.2)
        ++ if filled || (fields.missing? (members.map (·.1))).isNone then
          [] else [[]]
    | .list _ items => itemMisfits filled fields 0 items
    | .scalar .. => [[]]

/-- The misfits of a member with a key, if the record has one. -/
def memberMisfits (key : String) : Fields → Setting → List (List String)
  | .nil, _ => []
  | .cons name shape rest, t =>
    if name = key then (misfits shape t).map (key :: ·)
    else memberMisfits key rest t

/-- The misfits of members in order, as the items of a list. -/
def itemMisfits (filled : Bool) :
    Fields → Nat → List Setting → List (List String)
  | .nil, _, _ => []
  | .cons .., _, [] => if filled then [] else [[]]
  | .cons _ shape rest, count, t :: others =>
    (misfits shape t).map (toString count :: ·)
      ++ itemMisfits filled rest (count + 1) others

end

-- ================================================================= reports

/-- Whether a reading that may end early names the first of some misfits, and
succeeds if there are none. -/
def Reports {α : Type} : Except Problem α → List (List String) → Prop
  | .ok _, ms => ms = []
  | .error p, ms => ms.head? = some p.path

namespace Reports

variable {α β : Type} {x : Except Problem α} {ms ns : List (List String)}

/-- Of two readers the second is asked where the first finds nothing wrong, so
what is wrong first comes first. -/
theorem bind {f : α → Except Problem β} (hx : Reports x ms)
    (hf : ∀ a, x = .ok a → Reports (f a) ns) :
    Reports (x >>= f) (ms ++ ns) := by
  cases x with
  | ok a =>
    obtain rfl : ms = [] := hx
    exact hf a rfl
  | error p =>
    obtain ⟨rest, rfl⟩ := List.head?_eq_some_iff.1 hx
    exact rfl

theorem map (hx : Reports x ms) (f : α → β) :
    Reports (x >>= fun a => .ok (f a)) ms := by
  have whole : Reports (x >>= fun a => .ok (f a)) (ms ++ []) :=
    hx.bind fun _ _ => rfl
  rwa [List.append_nil] at whole

/-- A problem below a key. -/
theorem under {x : Except Problem α} (hx : Reports x ms) (key : String) :
    Reports (x.mapError (·.under key)) (ms.map (key :: ·)) := by
  cases x with
  | ok a =>
    obtain rfl : ms = [] := hx
    exact rfl
  | error p =>
    obtain ⟨rest, rfl⟩ := List.head?_eq_some_iff.1 hx
    exact rfl

/-- Things that are read one after the other. -/
theorem filterMapM {γ : Type} {f : γ → Except Problem (Option α)}
    {g : γ → List (List String)} (h : ∀ c, Reports (f c) (g c)) (cs : List γ) :
    Reports (cs.filterMapM f) (cs.flatMap g) := by
  induction cs with
  | nil => exact rfl
  | cons c cs ih =>
    rw [List.filterMapM_cons, List.flatMap_cons]
    refine (h c).bind fun a _ => ?_
    cases a with
    | none => exact ih
    | some b => exact ih.map (b :: ·)

end Reports

-- ================================================================ plain

/-- A text is judged, or it is none. -/
theorem reports_textThat {expected : String}
    {judge : String → Except Mismatch Value} {t : Setting} {fine : Bool}
    (h : fine = (t.text?.bind fun s => (judge s).toOption).isSome) :
    Reports (t.textThat expected judge) (if fine then [] else [[]]) := by
  rw [h, Setting.textThat]
  cases t.text? with
  | none => exact rfl
  | some s =>
    rw [Option.bind_some]
    dsimp only
    cases judge s <;> exact rfl

/-- A number that is too large is reported at itself. -/
theorem reports_natural (t : Setting) (name : String) (bound : Nat) :
    Reports (t.natural name bound) (if t.isBelow bound then [] else [[]]) := by
  have within (n : Nat) (m : Mismatch) (source : Source) :
      Reports (if n < bound then
        .ok (Value.ofNat n) else .error ⟨m, [], source⟩)
        (if decide (n < bound) then [] else [[]]) := by
    by_cases h : n < bound
    · rw [if_pos h, if_pos (decide_eq_true h)]
      exact rfl
    · rw [if_neg h, if_neg (by simpa using h)]
      exact rfl
  cases t with
  | list | table => exact rfl
  | scalar source value =>
    cases value with
    | unsigned n => exact within n _ source
    | signed i =>
      rw [Setting.natural, Setting.isBelow]
      dsimp only
      by_cases h : i < 0
      · rw [if_pos h, decide_eq_false (Int.not_le.2 h), Bool.false_and]
        exact rfl
      · rw [if_neg h, decide_eq_true (Int.not_lt.1 h), Bool.true_and]
        exact within i.toNat _ source
    | _ => exact rfl

theorem reports_choice (t : Setting) (name : String) (names : List String) :
    Reports (t.choice name names)
      (if t.isOneOf names then [] else [t.keyAmong names]) := by
  cases t with
  | list => exact rfl
  | scalar source value =>
    cases value with
    | text s =>
      rw [Setting.choice, Setting.isOneOf]
      dsimp only
      rw [Shape.choice?]
      by_cases h : s ∈ names
      · rw [if_pos h, if_pos (decide_eq_true h)]
        exact rfl
      · rw [if_neg h, if_neg (by simpa using h)]
        exact rfl
    | _ => exact rfl
  | table source members =>
    cases members with
    | nil => exact rfl
    | cons m rest =>
      obtain ⟨key, inner⟩ := m
      rw [Setting.choice, Setting.isOneOf, Setting.keyAmong]
      dsimp only
      rw [Shape.choice?]
      by_cases h : key ∈ names
      · rw [if_pos h, if_pos h, decide_eq_true h, Bool.true_and]
        cases inner with
        | list | table => exact rfl
        | scalar _ value => cases value <;> exact rfl
      · rw [if_neg h, if_neg h, decide_eq_false h, Bool.false_and]
        exact rfl

-- ================================================================ reading

mutual

/-- Reading names the first misfit, and succeeds if there is none. -/
theorem reports_ofSetting :
    ∀ (s : Shape) (t : Setting), Reports (ofSetting s t) (misfits s t)
  | .boolean, t => by
      cases t with
      | list | table => exact rfl
      | scalar _ value => cases value <;> exact rfl
  | .text, t | .path, t => by
      rw [ofSetting, misfits]
      refine reports_textThat ?_
      show t.text?.isSome = _
      cases t.text? <;> rfl
  | .address, t => by
      rw [ofSetting, misfits]
      refine reports_textThat ?_
      show (t.text?.bind Net.Address.ofText?).isSome = _
      cases t.text? with
      | none => rfl
      | some s =>
        rw [Option.bind_some, Option.bind_some, Shape.address?]
        cases Net.Address.ofText? s <;> rfl
  | .natural name bound, t => by
      rw [ofSetting, misfits]
      exact reports_natural t name bound
  | .choice name names, t => by
      rw [ofSetting, misfits]
      exact reports_choice t name names
  | .optional s, t => by
      have inner := reports_ofSetting s t
      cases t with
      | list | table => exact inner
      | scalar _ value => cases value <;> first | exact rfl | exact inner
  | .record name filled fields, .scalar _ value => by
      cases value <;> exact rfl
  | .record name filled fields, .table source members => by
      rw [ofSetting, misfits]
      refine (Reports.filterMapM (fun m => reports_memberNamed m.1 fields m.2)
        members).bind
        fun read _ => ?_
      cases filled with
      | true => exact rfl
      | false => cases fields.missing? (members.map (·.1)) <;> exact rfl
  | .record name filled fields, .list source items => by
      rw [ofSetting, misfits]
      exact (reports_inOrder name filled source fields 0 items).map _

/-- A member is reported under its key. -/
theorem reports_memberNamed (key : String) : ∀ (fields : Fields) (t : Setting),
    Reports (memberNamed key fields t) (memberMisfits key fields t)
  | .nil, _ => rfl
  | .cons name shape rest, t => by
      rw [memberNamed, memberMisfits]
      by_cases h : name = key
      · rw [if_pos h, if_pos h]
        have inner := (reports_ofSetting shape t).under key
        cases hread : ofSetting shape t <;> rw [hread] at inner <;> exact inner
      · rw [if_neg h, if_neg h]
        exact reports_memberNamed key rest t

/-- An item is reported under its place. -/
theorem reports_inOrder (record : String) (filled : Bool) (source : Source) :
    ∀ (fields : Fields) (count : Nat) (items : List Setting),
      Reports (inOrder record filled source fields count items)
        (itemMisfits filled fields count items)
  | .nil, _, _ => rfl
  | .cons _ _ _, _, [] => by
      rw [inOrder, itemMisfits]
      cases filled <;> exact rfl
  | .cons name shape rest, count, t :: others => by
      rw [inOrder, itemMisfits]
      have first := (reports_ofSetting shape t).under (toString count)
      have more := reports_inOrder record filled source rest (count + 1) others
      have whole := first.bind fun v _ => more.map ((name, v) :: ·)
      cases hread : ofSetting shape t <;> rw [hread] at whole <;> exact whole

end

-- ================================================================== paths

variable {s sub : Shape} {t u v : Setting} {keys rest : List String}

/-- A shape without parts has one misfit at most. -/
theorem misfits_plain :
    ∀ {s : Shape}, s.IsPlain → ∀ t : Setting, misfits s t = plainMisfits s t
  | .boolean, _, _ | .text, _, _ | .path, _, _ | .address, _,
    _ | .natural .., _, _
  | .choice .., _, _ => by rw [misfits]
  | .optional s, h, t => by
      have h : s.IsPlain := h
      rw [misfits, misfits_plain h, plainMisfits, plainMisfits, Shape.takes,
        Shape.culprit]
      cases t.isNull <;> rfl

theorem takes_list (source : Source) (items : List Setting) :
    ∀ s : Shape, s.takes (.list source items) = false
  | .boolean | .text | .path | .address | .natural .. | .choice ..
  | .record .. => rfl
  | .optional s => takes_list source items s

/-- Tables are taken only for the sake of what is null in them. -/
theorem takes_table {members : List (String × Setting)}
    (h : ∀ m ∈ members, m.2.isNull = false) (source : Source) : ∀ s : Shape,
      s.takes (.table source members) = false
  | .boolean | .text | .path | .address | .natural .. | .record .. => rfl
  | .choice _ names => by
      cases members with
      | nil => rfl
      | cons m rest =>
        rw [Shape.takes, Setting.isOneOf, h m (List.mem_cons_self ..),
          Bool.and_false]
  | .optional s => takes_table h source s

theorem isNull_of_ordered (order : t.Ordered (· ≠ .null)) :
    t.isNull = false := by
  cases order with
  | list | table => rfl
  | @scalar source value other =>
    cases value with
    | null => exact absurd rfl other
    | _ => rfl

/-- Where nothing is null, only things without parts are taken. -/
theorem isScalar_of_takes (order : t.Ordered (· ≠ .null))
    (h : s.takes t = true) : t.IsScalar := by
  cases order with
  | @scalar source value => exact ⟨source, value, rfl⟩
  | list =>
    rw [takes_list] at h
    cases h
  | table _ inner =>
    rw [takes_table fun m hm => isNull_of_ordered (inner m hm)] at h
    cases h

/-- The misfits of a member are those of its shape, each below the key. -/
theorem mem_memberMisfits {key : String} {t : Setting} {path : List String} :
    ∀ {fields : Fields}, path ∈ memberMisfits key fields t ↔
      ∃ s, fields.shape? key = some s
        ∧ ∃ rest ∈ misfits s t, key :: rest = path
  | .nil => by simp [memberMisfits, Fields.shape?]
  | .cons name shape rest => by
      rw [memberMisfits, Fields.shape?]
      by_cases same : name = key
      · simp [if_pos same]
      · rw [if_neg same, if_neg same]
        exact mem_memberMisfits

section Members

variable {name : String} {filled : Bool} {fields : Fields} {source : Source}
  {members : List (String × Setting)} {key : String}

/-- A table has the misfits of its members, each below its key. -/
theorem cons_mem_misfits :
    key :: rest ∈ misfits (.record name filled fields)
      (.table source members) ↔
      ∃ a s, (key, a) ∈ members ∧ fields.shape? key = some s
        ∧ rest ∈ misfits s a := by
  rw [misfits]
  constructor
  · intro h
    rcases List.mem_append.1 h with h | h
    · obtain ⟨⟨k, a⟩, hmem, h⟩ := List.mem_flatMap.1 h
      obtain ⟨s, hs, rest', hrest, same⟩ := mem_memberMisfits.1 h
      obtain ⟨rfl, rfl⟩ := List.cons.inj same
      exact ⟨a, s, hmem, hs, hrest⟩
    · split at h
      · cases h
      · cases List.mem_singleton.1 h
  · rintro ⟨a, s, hmem, hs, hrest⟩
    exact List.mem_append_left _ (List.mem_flatMap.2
      ⟨(key, a), hmem, mem_memberMisfits.2 ⟨s, hs, rest, hrest, rfl⟩⟩)

/-- Where members have defaults, it has no others. -/
theorem nil_not_mem_misfits :
    [] ∉ misfits (.record name true fields) (.table source members) := by
  rw [misfits, Bool.true_or, if_pos rfl, List.append_nil]
  intro h
  obtain ⟨⟨k, a⟩, -, h⟩ := List.mem_flatMap.1 h
  obtain ⟨_, -, _, -, same⟩ := mem_memberMisfits.1 h
  cases same

end Members

/-- Along a path, what does not fit there does not fit as a whole. -/
theorem mem_misfits_of_at? (hs : s.at? keys = some sub)
    (ht : t.at? keys = some u) (h : rest ∈ misfits sub u) :
    keys ++ rest ∈ misfits s t := by
  induction keys generalizing s t with
  | nil =>
    cases hs
    cases ht
    exact h
  | cons key keys ih =>
    cases s with
    | record name filled fields =>
      cases t with
      | table source members =>
        obtain ⟨s', hs', hs⟩ := Option.bind_eq_some_iff.1 hs
        obtain ⟨a, ha, ht⟩ := Option.bind_eq_some_iff.1 ht
        exact cons_mem_misfits.2 ⟨a, s', Keyed.mem_of_lookup ha, hs', ih hs ht⟩
      | scalar | list => cases ht
    | _ => cases hs

/-- Whether something can stand for a section without a misfit of its own: a
table, or a list that fits as a whole. -/
def isSectionOf (s : Shape) (t : Setting) : Bool :=
  t.hasMembers || (misfits s t).isEmpty

theorem exists_table_of_isSectionOf (here : isSectionOf s t = true)
    (h : keys ∈ misfits s t) :
    ∃ source members, t = .table source members := by
  rcases Bool.or_eq_true_iff.1 here with isTable | fits
  · cases t with
    | table source members => exact ⟨source, members, rfl⟩
    | _ => cases isTable
  · rw [List.isEmpty_iff.1 fits] at h
    cases h

/-- If so for all records of a shape, what does not fit as a whole does not
fit at the end of some path. -/
theorem exists_at?_of_mem_misfits {p : Scalar → Prop} (order : t.Ordered p)
    (parts : ∀ path sub, s.at? path = some sub →
      sub.IsPlain ∨ sub.IsSection ∧ (t.at? path).all (isSectionOf sub) = true)
    (h : keys ∈ misfits s t) :
    ∃ path rest sub u, keys = path ++ rest ∧ s.at? path = some sub ∧
      sub.IsPlain ∧ t.at? path = some u ∧ rest ∈ misfits sub u := by
  induction keys generalizing s t with
  | nil =>
    rcases parts [] s rfl with plain | ⟨filled, here⟩
    · exact ⟨[], [], s, t, rfl, rfl, plain, rfl, h⟩
    · obtain ⟨source, members, rfl⟩ := exists_table_of_isSectionOf here h
      cases s with
      | record name isFilled fields =>
        obtain rfl : isFilled = true := filled
        exact absurd h nil_not_mem_misfits
      | _ => exact filled.elim
  | cons key keys ih =>
    rcases parts [] s rfl with plain | ⟨filled, here⟩
    · exact ⟨[], key :: keys, s, t, rfl, rfl, plain, rfl, h⟩
    · obtain ⟨source, members, rfl⟩ := exists_table_of_isSectionOf here h
      cases s with
      | record name isFilled fields =>
        cases order with
        | table order inner =>
          obtain ⟨a, s', ha, hs', h⟩ := cons_mem_misfits.1 h
          have found : members.lookup key = some a :=
            Keyed.lookup_of_mem order.nodup ha
          have further (path : List String) (sub : Shape)
            (hsub : s'.at? path = some sub) :
              sub.IsPlain ∨ sub.IsSection ∧ (a.at? path).all (isSectionOf sub)
                = true := by
            have there :=
              parts (key :: path) sub (by rw [Shape.at?, hs']; exact hsub)
            rwa [Setting.at?, Setting.member?, found] at there
          obtain ⟨path, rest, sub, u, rfl, hsub, plain, hu, h⟩ :=
            ih (inner _ ha) further h
          refine ⟨key :: path, rest, sub, u, rfl, ?_, plain, ?_, h⟩
          · rw [Shape.at?, hs']
            exact hsub
          · rw [Setting.at?, Setting.member?, found]
            exact hu
      | _ => exact filled.elim

/-- Whatever a tree has at the end of a path, it has what is merged into it
there, if this has no parts. -/
theorem merge_at?_scalar (hu : u.at? keys = some v) (hv : v.IsScalar) :
    (t.merge u).at? keys = some v := by
  induction keys generalizing t u with
  | nil =>
    cases hu
    exact congrArg some (Setting.merge_scalar t hv)
  | cons key keys ih =>
    cases u with
    | scalar | list => cases hu
    | table source ns =>
      obtain ⟨b, hb, hu⟩ := Option.bind_eq_some_iff.1 hu
      have hb : ns.lookup key = some b := hb
      cases t with
      | scalar | list =>
        rw [Setting.merge]
        · rw [Setting.at?, Setting.member?, hb]
          exact hu
        · intro _ _ _ _ isTable
          cases isTable
      | table source' ms =>
        rw [Setting.merge, Setting.at?, Setting.member?,
          Setting.lookup_mergeMembers, hb]
        cases ms.lookup key with
        | none => exact hu
        | some a => exact ih hu

end Settings

end PatternCheck
