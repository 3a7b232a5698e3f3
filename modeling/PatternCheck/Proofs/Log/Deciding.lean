import PatternCheck.Proofs.Log.Rules
import Mathlib.Data.List.Induction

/-
Which rule decides about an event. Of the rules for one target only the
last is in force, and of those in force whose target begins that of the
event the one with the longest target decides (`Decides`). This says
nothing of an order of reading: the filter goes through its directives
once and keeps the best so far, and after each of them it has found the
one that decides among those read (`decisive?_rules`). So the order of
rules matters only among rules for the same target (`Reordered`).
-/

namespace PatternCheck.Log

open Text.Utf8 (length length_nil length_cons length_append)

variable {e : Event} {a b r : Rule} {rules rules' : List Rule}

-- ================================================================ coverage

/-- A rule covers the events from targets that begin with its own. -/
def Rule.Covers (r : Rule) (e : Event) : Prop := r.target <+: e.target.toList

instance (r : Rule) (e : Event) : Decidable (r.Covers e) :=
  inferInstanceAs (Decidable (r.target <+: e.target.toList))

theorem Rule.applies_directive (r : Rule) (e : Event) :
    r.directive.applies e = decide (r.Covers e) := by
  rw [Bool.eq_iff_iff, decide_eq_true_eq]
  unfold directive Directive.applies Directive.inSpans Covers
  by_cases h : r.target = []
  · simp [h]
  · simp [h]

-- ============================================================= specificity

/-- Longer texts have more bytes. -/
theorem length_le_of_begins {as bs : List Char} (h : as <+: bs) :
    length as ≤ length bs := by
  obtain ⟨rest, rfl⟩ := h
  rw [length_append]
  exact Nat.le_add_right _ _

/-- A text that begins another one and has as many bytes is the same. -/
theorem eq_of_begins_of_length_le {as bs : List Char} (h : as <+: bs)
    (hle : length bs ≤ length as) : as = bs := by
  obtain ⟨rest, rfl⟩ := h
  rw [length_append] at hle
  cases rest with
  | nil => rw [List.append_nil]
  | cons c rest =>
      have positive := c.utf8Size_pos
      rw [length_cons] at hle
      omega

/-- Of two texts that begin the same one the one with more bytes is the one
with more characters. -/
theorem length_le_iff {as bs cs : List Char} (ha : as <+: cs)
    (hb : bs <+: cs) : length as ≤ length bs ↔ as.length ≤ bs.length := by
  rcases List.prefix_or_prefix_of_prefix ha hb with h | h
  · exact iff_of_true (length_le_of_begins h) h.length_le
  · constructor
    · intro hle
      exact Nat.le_of_eq
        (congrArg List.length (eq_of_begins_of_length_le h hle).symm)
    · intro hle
      exact Nat.le_of_eq (congrArg length (h.eq_of_length_le hle).symm)

theorem Rule.specificity_directive (r : Rule) :
    r.directive.specificity
      = (if r.target = [] then 0 else length r.target + 1, 0) := by
  unfold directive Directive.specificity
  by_cases h : r.target = []
  · rw [if_pos h, if_pos h]
    rfl
  · rw [if_neg h, if_neg h]
    dsimp only
    rw [String.toList_ofList]
    rfl

/-- Of two rules that cover an event the one with the longer target is more
specific, and of two with the same one the later. -/
theorem Rule.yields_directive (ha : a.Covers e) (hb : b.Covers e) :
    a.directive.yields b.directive
      = decide (a.target.length ≤ b.target.length) := by
  have empty (r : Rule) : r.target.length = 0 ↔ r.target = [] :=
    List.length_eq_zero_iff
  have targets := length_le_iff ha hb
  have names (r : Rule) : r.directive.fields = [] := rfl
  unfold Directive.yields
  rw [specificity_directive, specificity_directive, names, names,
    Bool.eq_iff_iff, decide_eq_true_eq]
  by_cases hae : a.target = []
  · by_cases hbe : b.target = []
    · simp [hae, hbe, Directive.namesLe]
    · simp [hae, hbe]
  · by_cases hbe : b.target = []
    · simp [hae, hbe]
    · simp only [if_neg hae, if_neg hbe]
      simp [Directive.namesLe]
      omega

-- ================================================================ decision

/-- A rule is the last one for its target. -/
def InForce (rules : List Rule) (r : Rule) : Prop :=
  (rules.filter (·.target = r.target)).getLast? = some r

/-- A rule decides about an event: it covers it, it is the last one for its
target, and no rule with a longer target covers the event. -/
structure Decides (rules : List Rule) (e : Event) (r : Rule) : Prop where
  covers : r.Covers e
  last : InForce rules r
  longest : ∀ x ∈ rules, x.Covers e → x.target.length ≤ r.target.length

theorem InForce.mem (h : InForce rules r) : r ∈ rules :=
  (List.mem_filter.1 (List.mem_of_mem_getLast? h)).1

/-- A rule that is added behind the others is in force. -/
theorem inForce_concat (rules : List Rule) (r : Rule) :
    InForce (rules ++ [r]) r := by
  unfold InForce
  rw [List.filter_append, List.filter_cons_of_pos (by simp)]
  exact List.getLast?_concat

/-- A rule for one target does not bear on those for others. -/
theorem inForce_concat_iff (h : a.target ≠ r.target) :
    InForce (rules ++ [a]) r ↔ InForce rules r := by
  unfold InForce
  rw [List.filter_append, List.filter_cons_of_neg (by simpa using h),
    List.filter_nil, List.append_nil]

/-- At most one rule decides. -/
theorem Decides.unique (ha : Decides rules e a) (hb : Decides rules e b) :
    a = b := by
  have le := hb.longest a ha.last.mem ha.covers
  have ge := ha.longest b hb.last.mem hb.covers
  -- both targets begin that of the event, and neither is longer
  have same : a.target = b.target :=
    List.prefix_of_prefix_length_le ha.covers hb.covers le
      |>.eq_of_length_le ge
  have last := ha.last
  unfold InForce at last
  rw [same] at last
  exact Option.some.inj (last.symm.trans hb.last)

/-- A rule that is added behind the one that decides decides itself if it
covers the event and its target is not shorter. -/
theorem Decides.concat (h : Decides rules e a) (hr : r.Covers e)
    (hle : a.target.length ≤ r.target.length) :
    Decides (rules ++ [r]) e r := by
  refine ⟨hr, inForce_concat rules r, ?_⟩
  rw [List.forall_mem_append, List.forall_mem_singleton]
  exact ⟨fun x hx covers => Nat.le_trans (h.longest x hx covers) hle,
    fun _ => Nat.le_refl _⟩

/-- Otherwise nothing changes. -/
theorem Decides.concat_other (h : Decides rules e a)
    (hr : r.Covers e → r.target.length < a.target.length) :
    Decides (rules ++ [r]) e a := by
  have differs : r.target ≠ a.target := by
    intro same
    have covers : r.Covers e := by
      unfold Rule.Covers
      rw [same]
      exact h.covers
    have shorter := hr covers
    rw [same] at shorter
    exact Nat.lt_irrefl _ shorter
  refine ⟨h.covers, (inForce_concat_iff differs).2 h.last, ?_⟩
  rw [List.forall_mem_append, List.forall_mem_singleton]
  exact ⟨h.longest, fun covers => Nat.le_of_lt (hr covers)⟩

namespace Filter

variable {ds : List Directive} {d d' : Directive}

/-- The directives that apply, and then the last one if it does. -/
theorem filter_applies_concat (h : d.applies e = true) :
    (ds ++ [d]).filter (·.applies e) = ds.filter (·.applies e) ++ [d] := by
  rw [List.filter_append, List.filter_cons, if_pos h, List.filter_nil]

theorem decisive?_skip (h : d.applies e = false) :
    decisive? ⟨ds ++ [d]⟩ e = decisive? ⟨ds⟩ e := by
  unfold decisive?
  rw [List.filter_append, List.filter_cons, if_neg (by simp [h]),
    List.filter_nil, List.append_nil]

theorem decisive?_first (h : d.applies e = true)
    (hds : decisive? ⟨ds⟩ e = none) : decisive? ⟨ds ++ [d]⟩ e = some d := by
  unfold decisive? at hds ⊢
  rw [filter_applies_concat h, List.foldl_append, hds]
  rfl

theorem decisive?_more (h : d.applies e = true)
    (hds : decisive? ⟨ds⟩ e = some d') :
    decisive? ⟨ds ++ [d]⟩ e = some (if d'.yields d then d else d') := by
  unfold decisive? at hds ⊢
  rw [filter_applies_concat h, List.foldl_append, hds]
  exact (apply_ite some _ _ _).symm

/-- After each rule the filter has found the one that decides among those
read, if there is one. -/
theorem decisive?_rules (rules : List Rule) (e : Event) :
    (decisive? ⟨rules.map Rule.directive⟩ e = none ∧
        ∀ r ∈ rules, ¬ r.Covers e) ∨
      ∃ r, decisive? ⟨rules.map Rule.directive⟩ e = some r.directive ∧
        Decides rules e r := by
  induction rules using List.reverseRecOn with
  | nil => exact .inl ⟨rfl, List.forall_mem_nil _⟩
  | append_singleton rules r ih =>
      rw [List.map_append, List.map_singleton]
      by_cases hr : r.Covers e
      · have applies : r.directive.applies e = true := by
          rw [r.applies_directive, decide_eq_true hr]
        rcases ih with ⟨none, others⟩ | ⟨best, found, decides⟩
        · refine .inr ⟨r, decisive?_first applies none, hr,
            inForce_concat rules r, ?_⟩
          rw [List.forall_mem_append, List.forall_mem_singleton]
          exact ⟨fun x hx covers => absurd covers (others x hx),
            fun _ => Nat.le_refl _⟩
        · have more := decisive?_more applies found
          rw [Rule.yields_directive decides.covers hr] at more
          by_cases hle : best.target.length ≤ r.target.length
          · rw [decide_eq_true hle, if_pos rfl] at more
            exact .inr ⟨r, more, decides.concat hr hle⟩
          · rw [decide_eq_false hle, if_neg (by decide)] at more
            exact .inr ⟨best, more, decides.concat_other fun _ =>
              Nat.lt_of_not_le hle⟩
      · have skip : r.directive.applies e = false := by
          rw [r.applies_directive, decide_eq_false hr]
        rw [decisive?_skip skip]
        rcases ih with ⟨none, others⟩ | ⟨best, found, decides⟩
        · refine .inl ⟨none, ?_⟩
          rw [List.forall_mem_append, List.forall_mem_singleton]
          exact ⟨others, hr⟩
        · exact .inr ⟨best, found, decides.concat_other fun covers =>
            absurd covers hr⟩

end Filter

-- ======================================================== what is logged

/-- An event is logged if there is a rule that decides about it and admits
its level. -/
def Logged (rules : List Rule) (e : Event) : Prop :=
  ∃ r, Decides rules e r ∧ r.threshold.admits e.level = true

/-- The filter logs what its rules say. -/
theorem admits_iff_logged (rules : List Rule) (e : Event) :
    Filter.admits ⟨rules.map Rule.directive⟩ e = true ↔ Logged rules e := by
  unfold Filter.admits
  rcases Filter.decisive?_rules rules e with ⟨none, others⟩
    | ⟨best, found, decides⟩
  · rw [none]
    refine iff_of_false (by simp) ?_
    rintro ⟨r, hr, -⟩
    exact others r hr.last.mem hr.covers
  · rw [found]
    constructor
    · intro admits
      exact ⟨best, decides, admits⟩
    · rintro ⟨r, hr, admits⟩
      rw [hr.unique decides] at admits
      exact admits

instance (rules : List Rule) (e : Event) : Decidable (Logged rules e) :=
  decidable_of_iff _ (admits_iff_logged rules e)

-- ================================================================== order

/-- The same rules in another order, but those for the same target in the
same order. -/
def Reordered (rules rules' : List Rule) : Prop :=
  ∀ t, rules.filter (·.target = t) = rules'.filter (·.target = t)

theorem Reordered.symm (h : Reordered rules rules') : Reordered rules' rules :=
  fun t => (h t).symm

theorem Reordered.mem (h : Reordered rules rules') (hr : r ∈ rules) :
    r ∈ rules' := by
  have own : r ∈ rules.filter (·.target = r.target) :=
    List.mem_filter.2 ⟨hr, by simp⟩
  rw [h r.target] at own
  exact (List.mem_filter.1 own).1

/-- Two rules next to each other, for different targets, can change places. -/
theorem Reordered.swap (before after : List Rule) (h : a.target ≠ b.target) :
    Reordered (before ++ a :: b :: after) (before ++ b :: a :: after) := by
  intro t
  simp only [List.filter_append, List.filter_cons]
  by_cases ha : a.target = t
  · have hb : b.target ≠ t := fun hb => h (ha.trans hb.symm)
    simp [ha, hb]
  · simp [ha]

/-- If all targets are different, the rules can be in any order. -/
theorem Reordered.of_perm (h : rules.Perm rules')
    (targets : (rules.map Rule.target).Nodup) : Reordered rules rules' := by
  intro t
  have perm := h.filter (fun r => decide (r.target = t))
  have distinct : ((rules.filter (·.target = t)).map Rule.target).Nodup :=
    targets.sublist (List.filter_sublist.map Rule.target)
  have same : ∀ r ∈ rules.filter (·.target = t), r.target = t :=
    fun r hr => of_decide_eq_true (List.mem_filter.1 hr).2
  -- there is at most one rule for the target
  rcases hrules : rules.filter (·.target = t) with _ | ⟨r, _ | ⟨r', others⟩⟩
  · rw [hrules] at perm
    exact hrules.trans perm.nil_eq
  · rw [hrules] at perm
    exact hrules.trans (List.singleton_perm.1 perm)
  · rw [hrules] at distinct same
    have equal : r.target = r'.target :=
      (same r (by simp)).trans (same r' (by simp)).symm
    simp [equal] at distinct

theorem Decides.reordered (h : Reordered rules rules')
    (hr : Decides rules e r) : Decides rules' e r where
  covers := hr.covers
  last := by
    unfold InForce
    rw [← h r.target]
    exact hr.last
  longest x hx := hr.longest x (h.symm.mem hx)

/-- The order of rules for different targets does not matter. -/
theorem Logged.reordered (h : Reordered rules rules') :
    Logged rules e ↔ Logged rules' e := by
  constructor
  · rintro ⟨r, hr, admits⟩
    exact ⟨r, hr.reordered h, admits⟩
  · rintro ⟨r, hr, admits⟩
    exact ⟨r, hr.reordered h.symm, admits⟩

end PatternCheck.Log
