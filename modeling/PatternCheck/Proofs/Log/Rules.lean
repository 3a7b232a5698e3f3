import PatternCheck.Log.Filter
import PatternCheck.Proofs.Json.Writing
import PatternCheck.Proofs.Text.Blank
import PatternCheck.Proofs.Text.Lines
import PatternCheck.Proofs.Text.Utf8

/-
Rules, the plain directives of a filter: each names a level, and before
it a target or none. A filter that is written as rules with commas
between them is read as just these rules (`Filter.ofText_filterText`).
The reader of a directive goes by numbers of bytes; what it cuts out
between two of them is what was written there (`between_middle`).
-/

namespace PatternCheck.Log

open Text (isBlank trim trim_eq_self OneLine oneLine_ofList)
open Text.Utf8 (length length_nil length_cons length_append)

-- ============================================================ characters

/-- The characters of a target: letters, digits, `_` and `:`. That a letter
or a digit is not blank is said here, too, because no proof goes through
the tables of them. -/
def isTargetChar (c : Char) : Bool :=
  !isBlank c && (c = '_' || c = ':' || Pattern.isAlphabetic c
    || Pattern.isNumeric c)

section Characters

variable {c d : Char}

theorem isBlank_of_isTargetChar (h : isTargetChar c = true) :
    isBlank c = false := by
  unfold isTargetChar at h
  simp_all

theorem canBegin_of_isTargetChar (h : isTargetChar c = true) :
    Directive.canBegin c = true := by
  unfold isTargetChar at h
  unfold Directive.canBegin
  rw [Bool.and_eq_true] at h
  simp only [Bool.or_eq_true] at h ⊢
  rcases h.2 with ((h | h) | h) | h <;> simp [h]

theorem ne_of_isTargetChar (h : isTargetChar c = true)
    (hd : isTargetChar d = false) : c ≠ d := by
  rintro rfl
  rw [h] at hd
  cases hd

end Characters

-- ================================================================= places

section Places

variable {start stop pos : Nat}

theorem between_cons_inside (c : Char) (rest : List Char) (h : start ≤ pos)
    (h' : pos < stop) :
    Directive.between start stop pos (c :: rest) =
      c :: Directive.between start stop (pos + c.utf8Size) rest :=
  if_pos (by simp [h, h'])

theorem between_cons_outside (c : Char) (rest : List Char)
    (h : pos < start ∨ stop ≤ pos) :
    Directive.between start stop pos (c :: rest) =
      Directive.between start stop (pos + c.utf8Size) rest :=
  if_neg (by simp; omega)

/-- What stands before the first of two places is left out. -/
theorem between_before (as rest : List Char) :
    ∀ {pos}, pos + length as ≤ start →
      Directive.between start stop pos (as ++ rest) =
        Directive.between start stop (pos + length as) rest := by
  induction as with
  | nil => intro pos _; rfl
  | cons c as ih =>
      intro pos h
      have positive := c.utf8Size_pos
      rw [length_cons] at h
      rw [List.cons_append, between_cons_outside c _ (by omega), ih (by omega),
        length_cons, Nat.add_assoc]

/-- What stands between the two places is kept. -/
theorem between_inside (bs rest : List Char) :
    ∀ {pos}, start ≤ pos → pos + length bs ≤ stop →
      Directive.between start stop pos (bs ++ rest) =
        bs ++ Directive.between start stop (pos + length bs) rest := by
  induction bs with
  | nil => intro pos _ _; rfl
  | cons c bs ih =>
      intro pos h h'
      have positive := c.utf8Size_pos
      rw [length_cons] at h'
      rw [List.cons_append, between_cons_inside c _ h (by omega),
        ih (by omega) (by omega), length_cons, Nat.add_assoc, List.cons_append]

/-- What stands behind the second place is left out. -/
theorem between_after (rest : List Char) :
    ∀ {pos}, stop ≤ pos → Directive.between start stop pos rest = [] := by
  induction rest with
  | nil => intro pos _; rfl
  | cons c rest ih =>
      intro pos h
      rw [between_cons_outside c rest (.inr h)]
      exact ih (by omega)

/-- A text is found again between the places where it begins and ends. -/
theorem between_middle (as bs rest : List Char) :
    Directive.between (length as) (length as + length bs) 0
      (as ++ (bs ++ rest)) = bs := by
  rw [between_before as _ (by omega), Nat.zero_add,
    between_inside bs _ (by omega) (by omega), between_after rest (by omega),
    List.append_nil]

end Places

-- =============================================================== thresholds

/-- The name of a threshold, as it is written in a filter. -/
def Threshold.name : Threshold → String
  | none => "off"
  | some l => lower l.name

namespace Threshold

/-- A threshold is told by its name. -/
theorem ofText?_name (t : Threshold) : ofText? t.name = some t := by
  rcases t with - | l
  · decide +kernel
  · cases l <;> decide +kernel

theorem isTargetChar_of_mem_name (t : Threshold) :
    ∀ c ∈ t.name.toList, isTargetChar c = true := by
  rw [← List.all_eq_true]
  rcases t with - | l
  · decide
  · cases l <;> decide

theorem isEmpty_name (t : Threshold) : t.name.isEmpty = false := by
  rcases t with - | l
  · decide
  · cases l <;> decide

theorem name_ne_nil (t : Threshold) : t.name.toList ≠ [] := by
  rcases t with - | l
  · decide
  · cases l <;> decide

end Threshold

-- =================================================================== rules

/-- A plain directive: up to which level events from some targets are
logged. -/
structure Rule where
  /-- With what a target begins; the empty text is that of a rule for all
  targets. -/
  target : List Char
  threshold : Threshold
  plain : ∀ c ∈ target, isTargetChar c = true

namespace Rule

/-- The text of a rule. -/
def chars (r : Rule) : List Char :=
  if r.target = [] then r.threshold.name.toList
  else r.target ++ '=' :: r.threshold.name.toList

/-- What a rule is read as. -/
def directive (r : Rule) : Directive :=
  { target := if r.target = [] then none else some (String.ofList r.target)
    threshold := r.threshold }

variable {r : Rule}

theorem chars_of_empty (h : r.target = []) :
    r.chars = r.threshold.name.toList := if_pos h

theorem chars_of_target (h : r.target ≠ []) :
    r.chars = r.target ++ '=' :: r.threshold.name.toList := if_neg h

/-- What holds of an equality sign and of the characters of targets holds of
all characters of a rule. -/
theorem forall_mem_chars {P : Char → Prop} (equals : P '=')
    (plain : ∀ c, isTargetChar c = true → P c) : ∀ c ∈ r.chars, P c := by
  have name : ∀ c ∈ r.threshold.name.toList, P c :=
    fun c hc => plain c (r.threshold.isTargetChar_of_mem_name c hc)
  by_cases h : r.target = []
  · rwa [chars_of_empty h]
  · rw [chars_of_target h, List.forall_mem_append, List.forall_mem_cons]
    exact ⟨fun c hc => plain c (r.plain c hc), equals, name⟩

theorem chars_ne_nil (r : Rule) : r.chars ≠ [] := by
  by_cases h : r.target = []
  · rw [chars_of_empty h]
    exact r.threshold.name_ne_nil
  · rw [chars_of_target h]
    exact List.append_ne_nil_of_left_ne_nil h _

/-- There is no blank in a rule, so nothing of it is trimmed. -/
theorem trim_chars (r : Rule) : trim r.chars = r.chars :=
  trim_eq_self (forall_mem_chars (by decide) fun _ => isBlank_of_isTargetChar)

end Rule

-- ============================================================ reading rules

section Reading

variable {cut : Nat → Nat → String} {cutFrom : Nat → String} {d : Directive}
  {begin pos : Nat}

/-- Reading goes on with what a character makes of a directive. -/
theorem run_cons {c : Char} {d' : Directive} {phase phase' : Directive.Phase}
    (h : Directive.step cut d phase pos c = .ok (d', phase'))
    (rest : List Char) :
    Directive.run cut cutFrom d phase pos (c :: rest) =
      Directive.run cut cutFrom d' phase' (pos + c.utf8Size) rest := by
  rw [Directive.run, h]

theorem step_targetOrLevel {c : Char} (h : isTargetChar c = true) :
    Directive.step cut d (.targetOrLevel begin) pos c
      = .ok (d, .targetOrLevel begin) := by
  have equals : c ≠ '=' := ne_of_isTargetChar h (by decide)
  have bracket : c ≠ '[' := ne_of_isTargetChar h (by decide)
  rw [Directive.step, if_neg equals, if_neg bracket]

theorem step_start {c : Char} (h : isTargetChar c = true) :
    Directive.step cut d .start pos c = .ok (d, .targetOrLevel pos) := by
  have bracket : c ≠ '[' := ne_of_isTargetChar h (by decide)
  rw [Directive.step, if_neg bracket, if_pos (canBegin_of_isTargetChar h)]

/-- An equality sign ends a target; the level begins one byte behind it. -/
theorem step_equals :
    Directive.step cut d (.targetOrLevel begin) pos '=' =
      .ok ({ d with target := some (cut begin pos) }, .level (pos + 1)) := by
  rw [Directive.step, if_pos rfl]

/-- A target, or a level, goes on for as long as there are characters of
one. -/
theorem run_targetOrLevel (cs rest : List Char)
    (h : ∀ c ∈ cs, isTargetChar c = true) :
    ∀ {pos}, Directive.run cut cutFrom d (.targetOrLevel begin) pos
      (cs ++ rest) =
      Directive.run cut cutFrom d (.targetOrLevel begin) (pos + length cs)
        rest := by
  induction cs with
  | nil => intro pos; rfl
  | cons c cs ih =>
      intro pos
      rw [List.cons_append,
        run_cons (step_targetOrLevel (h c List.mem_cons_self)), ih fun x hx =>
        h x (List.mem_cons_of_mem c hx), length_cons, Nat.add_assoc]

/-- A level goes on to the end. -/
theorem run_level (cs : List Char) :
    ∀ {pos}, Directive.run cut cutFrom d (.level begin) pos cs =
      Directive.finish cutFrom d (.level begin) := by
  induction cs with
  | nil => intro pos; rfl
  | cons c cs ih =>
      intro pos
      rw [run_cons rfl]
      exact ih

/-- At the first character it is not known yet whether a target or a level
begins. -/
theorem run_start {cs first rest : List Char} (hcs : cs = first ++ rest)
    (hne : first ≠ []) (h : ∀ c ∈ first, isTargetChar c = true) :
    Directive.run cut cutFrom d .start 0 cs =
      Directive.run cut cutFrom d (.targetOrLevel 0) (length first) rest := by
  obtain ⟨c, first, rfl⟩ := List.exists_cons_of_ne_nil hne
  rw [hcs, List.cons_append, run_cons (step_start (h c List.mem_cons_self)),
    run_targetOrLevel first rest fun x hx => h x (List.mem_cons_of_mem c hx),
    length_cons, Nat.zero_add]

end Reading

namespace Rule

variable {r : Rule}

/-- A level by itself is read as a rule for all targets. -/
theorem ofChars_of_empty (h : r.target = []) :
    Directive.ofChars r.chars = .ok { threshold := r.threshold } := by
  have whole := between_middle [] r.threshold.name.toList []
  rw [length_nil, Nat.zero_add, List.nil_append, List.append_nil] at whole
  unfold Directive.ofChars
  rw [r.trim_chars, chars_of_empty h]
  dsimp only
  rw [run_start (List.append_nil _).symm r.threshold.name_ne_nil
    r.threshold.isTargetChar_of_mem_name, Directive.run, Directive.finish]
  rw [whole, String.ofList_toList, r.threshold.isEmpty_name,
    Threshold.ofText?_name]
  rfl

/-- A target and a level are read as a rule for the target. -/
theorem ofChars_of_target (h : r.target ≠ []) :
    Directive.ofChars r.chars =
      .ok { target := some (String.ofList r.target)
            threshold := r.threshold } := by
  have first := between_middle [] r.target ('=' :: r.threshold.name.toList)
  rw [length_nil, Nat.zero_add, List.nil_append] at first
  have second := between_middle (r.target ++ ['=']) r.threshold.name.toList []
  have place : length (r.target ++ ['=']) = length r.target + 1 :=
    length_append _ _
  rw [← length_append, List.append_nil, List.append_assoc,
    List.singleton_append, place] at second
  unfold Directive.ofChars
  rw [r.trim_chars, chars_of_target h]
  dsimp only
  rw [run_start rfl h r.plain, run_cons step_equals, first, run_level,
    Directive.finish, second, String.ofList_toList, Directive.levelNamed,
    r.threshold.isEmpty_name, Threshold.ofText?_name]
  rfl

/-- A rule is read as the directive that it is. -/
theorem ofChars_chars (r : Rule) :
    Directive.ofChars r.chars = .ok r.directive := by
  by_cases h : r.target = []
  · rw [ofChars_of_empty h, directive, if_pos h]
  · rw [ofChars_of_target h, directive, if_neg h]

end Rule

-- ================================================================= filters

/-- Without a comma a text is one part. -/
theorem parts_eq_singleton {cs : List Char} (h : ',' ∉ cs) :
    Filter.parts cs = [cs] := by
  induction cs with
  | nil => rfl
  | cons c cs ih =>
      rw [List.mem_cons, not_or] at h
      rw [Filter.parts, ih h.2]
      exact if_neg (Ne.symm h.1)

theorem parts_ne_nil (cs : List Char) : Filter.parts cs ≠ [] := by
  cases cs with
  | nil => exact List.cons_ne_nil _ _
  | cons c cs =>
      unfold Filter.parts
      split
      · exact List.cons_ne_nil _ _
      · split <;> exact List.cons_ne_nil _ _

/-- A comma ends a part. -/
theorem parts_append_comma {cs : List Char} (h : ',' ∉ cs) (rest : List Char) :
    Filter.parts (cs ++ ',' :: rest) = cs :: Filter.parts rest := by
  induction cs with
  | nil =>
      obtain ⟨part, others, hrest⟩ :=
        List.exists_cons_of_ne_nil (parts_ne_nil rest)
      rw [List.nil_append, Filter.parts, hrest]
      exact if_pos rfl
  | cons c cs ih =>
      rw [List.mem_cons, not_or] at h
      rw [List.cons_append, Filter.parts, ih h.2]
      exact if_neg (Ne.symm h.1)

/-- The parts of a text with commas between them. -/
theorem parts_commaSeparated {texts : List (List Char)} (hne : texts ≠ [])
    (h : ∀ cs ∈ texts, ',' ∉ cs) :
    Filter.parts (Json.commaSeparated texts) = texts := by
  induction texts with
  | nil => exact absurd rfl hne
  | cons cs texts ih =>
      have first : ',' ∉ cs := h cs List.mem_cons_self
      cases texts with
      | nil => exact parts_eq_singleton first
      | cons next texts =>
          rw [Json.commaSeparated, parts_append_comma first,
            ih (List.cons_ne_nil next texts) fun x hx =>
            h x (List.mem_cons_of_mem cs hx)]
          simp

/-- The text of a filter with some rules. -/
def filterText (rules : List Rule) : String :=
  String.ofList (Json.commaSeparated (rules.map Rule.chars))

/-- The rules are read one after the other. -/
theorem mapM_ofChars (rules : List Rule) :
    (rules.map Rule.chars).mapM Directive.ofChars
      = .ok (rules.map Rule.directive) := by
  induction rules with
  | nil => rfl
  | cons r rules ih =>
      rw [List.map_cons, List.mapM_cons, r.ofChars_chars, ih]
      rfl

/-- A filter that is written as rules is read as these rules. -/
theorem ofText_filterText {rules : List Rule} (h : rules ≠ []) :
    Filter.ofText (filterText rules) = .ok ⟨rules.map Rule.directive⟩ := by
  have comma : ∀ cs ∈ rules.map Rule.chars, ',' ∉ cs := by
    rw [List.forall_mem_map]
    intro r _ hc
    have differs : ∀ c ∈ r.chars, c ≠ ',' :=
      Rule.forall_mem_chars (by decide) fun c hc =>
        ne_of_isTargetChar hc (by decide)
    exact differs ',' hc rfl
  have nonempty :
      (rules.map Rule.chars).filter (!·.isEmpty) = rules.map Rule.chars := by
    rw [List.filter_eq_self, List.forall_mem_map]
    intro r _
    simp [r.chars_ne_nil]
  have some : (rules.map Rule.chars) ≠ [] := by simp [h]
  unfold Filter.ofText filterText
  rw [String.toList_ofList, parts_commaSeparated some comma, nonempty,
    mapM_ofChars]
  simp [h, bind, Except.bind, pure, Except.pure]

/-- Such a text takes one line. -/
theorem filterText_oneLine (rules : List Rule) :
    OneLine (filterText rules) := by
  have differs :
      ∀ c ∈ Json.commaSeparated (rules.map Rule.chars), c ≠ '\n' := by
    refine Json.forall_mem_commaSeparated (by decide)
      (List.forall_mem_map.2 fun r _ => ?_)
    exact r.forall_mem_chars (by decide) fun c hc =>
      ne_of_isTargetChar hc (by decide)
  exact oneLine_ofList fun h => differs '\n' h rfl

end PatternCheck.Log
