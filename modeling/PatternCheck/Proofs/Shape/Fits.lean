import PatternCheck.Json.Typed

/-
Documents that fit a shape. Of a record only the members that are there
have to fit, each key at most once; whether there may be further members,
which nobody asked for, is a parameter: a reader that gives a document
back as it is cannot have any (`extra` is `False`), while one that passes
over them can.
-/

namespace PatternCheck

open Json (Value)

/-- The shape of the members with a key. -/
def Fields.shape? (key : String) : Fields → Option Shape
  | .nil => none
  | .cons name shape rest => if name = key then some shape else rest.shape? key

/-- Which member is missing depends only on which ones are there. -/
theorem Fields.missing?_congr {seen seen' : List String}
    (h : ∀ key, key ∈ seen ↔ key ∈ seen') :
    ∀ fields : Fields, fields.missing? seen = fields.missing? seen'
  | .nil => rfl
  | .cons name shape rest => by
      rw [Fields.missing?, Fields.missing?, Fields.missing?_congr h rest]
      simp only [h]

mutual

/-- Whether a document fits a shape. -/
inductive Shape.Fits (extra : Prop) : Shape → Value → Prop
  | boolean (b : Bool) : Shape.Fits extra .boolean (.bool b)
  | text (s : String) : Shape.Fits extra .text (.string s)
  | path (s : String) : Shape.Fits extra .path (.string s)
  | address {s : String} : (Net.Address.ofText? s).isSome →
    Shape.Fits extra .address (.string s)
  | natural {name : String} {bound n : Nat} :
      n < bound → Shape.Fits extra (.natural name bound) (.number (.natural n))
  | choice {name : String} {names : List String} {s : String} :
      s ∈ names → Shape.Fits extra (.choice name names) (.string s)
  | absent {shape : Shape} : Shape.Fits extra (.optional shape) .null
  | present {shape : Shape} {v : Value} : Shape.Fits extra shape v →
    Shape.Fits extra (.optional shape) v
  | record {name : String} {filled : Bool} {fields : Fields}
    {members : List (String × Value)} :
      (members.map (·.1)).Nodup →
      (filled = false → fields.missing? (members.map (·.1)) = none) →
      (∀ m ∈ members, MemberFits extra fields m) →
      Shape.Fits extra (.record name filled fields) (.object members)

/-- Whether a member fits those of a record. -/
inductive MemberFits (extra : Prop) : Fields → String × Value → Prop
  | here {key : String} {shape : Shape} {rest : Fields} {v : Value} :
      Shape.Fits extra shape v →
        MemberFits extra (.cons key shape rest) (key, v)
  | there {name : String} {shape : Shape} {rest : Fields}
    {m : String × Value} :
      name ≠ m.1 → MemberFits extra rest m →
        MemberFits extra (.cons name shape rest) m
  | extra {m : String × Value} : extra → MemberFits extra .nil m

end

/-- The text of an address is one. -/
theorem Shape.address?_of_isSome {s : String}
    (h : (Net.Address.ofText? s).isSome) :
    Shape.address? s = .ok (.string s) := by
  obtain ⟨a, ha⟩ := Option.isSome_iff_exists.1 h
  rw [Shape.address?, ha]

-- ========================================================= whole records

/-- Where all names are there, none is missing. -/
theorem Fields.missing?_of_forall {seen : List String} :
    ∀ {fields : Fields}, (∀ name ∈ fields.names, name ∈ seen) →
      fields.missing? seen = none
  | .nil, _ => rfl
  | .cons name shape rest, h => by
      obtain ⟨hname, hrest⟩ := List.forall_mem_cons.1 h
      rw [Fields.missing?, if_pos (by simp [hname]),
        Fields.missing?_of_forall hrest]

/-- A member of a record: its name, its shape and its value. -/
abbrev Part := String × Shape × Value

theorem memberFits_of_parts {extra : Prop} :
    ∀ {parts : List Part}, (parts.map (·.1)).Nodup →
      (∀ p ∈ parts, p.2.1.Fits extra p.2.2) →
      ∀ m ∈ parts.map fun p => (p.1, p.2.2),
        MemberFits extra (.ofList (parts.map fun p => (p.1, p.2.1))) m
  | [], _, _ => fun _ hm => absurd hm List.not_mem_nil
  | p :: parts, hnodup, hfits => by
      obtain ⟨hnew, hnodup⟩ := List.nodup_cons.1 hnodup
      obtain ⟨hp, hfits⟩ := List.forall_mem_cons.1 hfits
      have hrest := memberFits_of_parts hnodup hfits
      refine List.forall_mem_cons.2 ⟨.here hp, fun m hm =>
        .there ?_ (hrest m hm)⟩
      intro hname
      obtain ⟨q, hq, rfl⟩ := List.mem_map.1 hm
      exact hnew (List.mem_map.2 ⟨q, hq, hname.symm⟩)

theorem Fields.names_ofList : ∀ members : List (String × Shape),
    (Fields.ofList members).names = members.map (·.1)
  | [] => rfl
  | (name, shape) :: rest => by
    rw [Fields.ofList, Fields.names, Fields.names_ofList rest]; rfl

/-- A record with all its members fits if each of them does. -/
theorem Shape.Fits.whole {extra : Prop} {name : String} {filled : Bool}
    (parts : List Part) (hnodup : (parts.map (·.1)).Nodup)
    (hfits : ∀ p ∈ parts, p.2.1.Fits extra p.2.2) :
    Shape.Fits extra
      (.record name filled (.ofList (parts.map fun p => (p.1, p.2.1))))
      (.object (parts.map fun p => (p.1, p.2.2))) := by
  refine .record (by simpa [Function.comp_def] using hnodup) (fun _ => ?_)
    (memberFits_of_parts hnodup hfits)
  refine Fields.missing?_of_forall fun name hname => ?_
  rw [Fields.names_ofList] at hname
  simpa [Function.comp_def] using hname

end PatternCheck
