/-
Lists of members in the order of their keys, each key at most once.
-/

namespace PatternCheck.Keyed

variable {α : Type}

/-- Puts a member into an ordered list, in place of one that has the same
key. -/
def put (key : String) (a : α) : List (String × α) → List (String × α)
  | [] => [(key, a)]
  | (k, b) :: rest =>
    if key < k then (key, a) :: (k, b) :: rest
    else if key = k then (key, a) :: rest
    else (k, b) :: put key a rest

/-- Members in the order of their keys, the last of each key. -/
def ofList (members : List (String × α)) : List (String × α) :=
  members.foldl (fun sorted (k, a) => put k a sorted) []

/-- What is put under a key is found there. -/
theorem lookup_put_self (key : String) (a : α) (ms : List (String × α)) :
    (put key a ms).lookup key = some a := by
  induction ms with
  | nil => simp [put]
  | cons m rest ih =>
    obtain ⟨k, b⟩ := m
    by_cases h : key < k
    · simp [put, h]
    · by_cases e : key = k
      · simp [put, e]
      · simp [put, h, e, ih, List.lookup_cons, beq_eq_false_iff_ne.2 e]

/-- Under any other key there is what was there before. -/
theorem lookup_put_of_ne {key other : String} (h : other ≠ key) (a : α)
    (ms : List (String × α)) :
    (put key a ms).lookup other = ms.lookup other := by
  induction ms with
  | nil => simp [put, List.lookup_cons, beq_eq_false_iff_ne.2 h]
  | cons m rest ih =>
    obtain ⟨k, b⟩ := m
    by_cases l : key < k
    · simp [put, l, List.lookup_cons, beq_eq_false_iff_ne.2 h]
    · by_cases e : key = k
      · subst e
        simp [put, List.lookup_cons, beq_eq_false_iff_ne.2 h]
      · simp only [put, l, e, if_false]
        by_cases o : other = k
        · simp [o]
        · simp [List.lookup_cons, beq_eq_false_iff_ne.2 o, ih]

end PatternCheck.Keyed
