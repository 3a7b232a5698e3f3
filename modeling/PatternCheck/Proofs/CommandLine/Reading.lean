import PatternCheck.CommandLine.Arguments

/-
Arguments, as they are meant. Something that is given on the command line is
a flag with its value, and there are several ways to write it
(`Given.arguments`). Reading goes from one argument to the next, and a value
in an argument of its own is only looked at with the argument after it; so
what is followed here is what the reader will have once it has settled
(`Progress.Reads`). Each thing that is given puts its value in place
(`read_given`), and in the end the options have all of them, in whatever
order and way they were written (`ofArguments_given`).
-/

namespace PatternCheck.CommandLine

open Log (Environment)

-- =================================================================== given

/-- Whether a flag takes a text as its value. -/
def Flag.Takes : Flag → String → Prop
  | bind, value => (Net.Address.ofText? value).isSome
  | config, value | staticDir, value => value ≠ ""
  | help, _ | version, _ => False

instance : ∀ (f : Flag) (value : String), Decidable (f.Takes value)
  | .bind, value =>
    inferInstanceAs (Decidable ((Net.Address.ofText? value).isSome = true))
  | .config, value | .staticDir, value =>
    inferInstanceAs (Decidable (value ≠ ""))
  | .help, _ | .version, _ => inferInstanceAs (Decidable False)

/-- A flag with a value, and how they are written: the flag by its name or by
its letter, and the value in the same argument, after an equality sign, or
in the next one. -/
structure Given where
  flag : Flag
  value : String
  byLetter : Bool := false
  joined : Bool := false
deriving DecidableEq

namespace Given

/-- The flag, as it is written. -/
def mark (g : Given) : String :=
  match g.byLetter, g.flag.short? with
  | true, some letter => String.ofList ['-', letter]
  | _, _ => "--" ++ g.flag.long

/-- The arguments for a flag and its value. -/
def arguments (g : Given) : List String :=
  if g.joined then [g.mark ++ "=" ++ g.value] else [g.mark, g.value]

/-- Whether the value is one for the flag. In an argument of its own it must
not look like a flag. -/
structure WellFormed (g : Given) : Prop where
  takes : g.flag.Takes g.value
  apart : g.joined = false → g.value.toList.head? = some '-' → g.value = "-"

/-- The value that is given for a flag. -/
def valueOf (gs : List Given) (f : Flag) : Option String :=
  (gs.find? (·.flag = f)).map (·.value)

/-- A flag that is given has a value. -/
theorem valueOf_of_mem {gs : List Given} {f : Flag} (h : f ∈ gs.map flag) :
    ∃ value, valueOf gs f = some value := by
  obtain ⟨g, hg, same⟩ := List.mem_map.1 h
  have found : (gs.find? (·.flag = f)).isSome :=
    List.find?_isSome.2 ⟨g, hg, decide_eq_true same⟩
  obtain ⟨g', hg'⟩ := Option.isSome_iff_exists.1 found
  exact ⟨g'.value, by rw [valueOf, hg', Option.map_some]⟩

/-- One that is not given has none. -/
theorem valueOf_of_not_mem {gs : List Given} {f : Flag} (h : f ∉ gs.map flag) :
    valueOf gs f = none := by
  rw [valueOf, Option.map_eq_none_iff, List.find?_eq_none]
  exact fun g hg same => h (List.mem_map.2 ⟨g, hg, of_decide_eq_true same⟩)

/-- One flag more, with its value. -/
theorem valueOf_append {gs : List Given} {g : Given}
    (new : g.flag ∉ gs.map flag) (f : Flag) :
    valueOf (gs ++ [g]) f
      = if g.flag = f then some g.value else valueOf gs f := by
  unfold valueOf
  rw [List.find?_append]
  split
  · next same =>
    have none := Option.map_eq_none_iff.1 (valueOf_of_not_mem (same ▸ new))
    rw [none, Option.none_or, List.find?_singleton,
      if_pos (decide_eq_true same)]
    rfl
  · next other =>
    rw [List.find?_singleton, if_neg (by simpa using other), Option.or_none]

/-- The options with all that is given. -/
def options (gs : List Given) : Options where
  config := valueOf gs .config
  bind := (valueOf gs .bind).bind Net.Address.ofText?
  staticDir := valueOf gs .staticDir

/-- The options with all that is given, in an environment that may name the
configuration file. -/
def optionsIn (env : Environment) (gs : List Given) : Options where
  config := (valueOf gs .config).or (env.get? configVariable)
  bind := (valueOf gs .bind).bind Net.Address.ofText?
  staticDir := valueOf gs .staticDir

end Given

theorem isEmpty_false {s : String} (h : s ≠ "") : s.isEmpty = false :=
  Bool.eq_false_iff.2 fun hs => h (String.isEmpty_iff.1 hs)

/-- A value is put in its place. -/
theorem Options.set_given {gs : List Given} {g : Given}
    (takes : g.flag.Takes g.value) (new : g.flag ∉ gs.map Given.flag) :
    (Given.options gs).set g.flag g.value
      = .ok (Given.options (gs ++ [g])) := by
  unfold Given.options
  rw [Given.valueOf_append new, Given.valueOf_append new,
    Given.valueOf_append new]
  cases hflag : g.flag with
  | bind =>
      rw [hflag, Flag.Takes, Option.isSome_iff_exists] at takes
      obtain ⟨address, haddress⟩ := takes
      simp [set, haddress]
  | config =>
      rw [hflag] at takes
      simp [set, isEmpty_false takes]
  | staticDir =>
      rw [hflag] at takes
      simp [set, isEmpty_false takes]
  | help | version =>
      rw [hflag] at takes
      exact takes.elim

-- ================================================================ one flag

namespace Progress

variable {p q : Progress} {f : Flag} {value : String}

/-- Where reading stands, when the last value is looked at. -/
def Reads (p q : Progress) : Prop := p.settle = (q, none)

/-- Reading goes on from where it has settled. -/
theorem Reads.settled (h : p.Reads q)
    (next : Progress → Except Ending Progress) : p.settled next = next q := by
  rw [Progress.settled, h]

/-- A flag waits for its value. -/
theorem Reads.flag_apart (h : p.Reads q) (takes : f.Takes value) :
    p.flag f none = .ok { q with pending := .flag f } := by
  rw [flag, h.settled]
  cases f with
  | help | version => exact takes.elim
  | _ => rfl

/-- A flag and its value are taken at once. -/
theorem Reads.flag_joined (h : p.Reads q) {q' : Progress}
    (takes : f.Takes value) (taken : q.take f value = (q', none)) :
    p.flag f (some value) = .ok q' := by
  rw [flag, h.settled]
  cases f with
  | help | version => exact takes.elim
  | _ =>
      dsimp only
      rw [taken]

-- =========================================================== written flags

/-- Each flag has a name of its own. -/
theorem ofLong?_long (f : Flag) : Flag.ofLong? f.long = some f := by
  cases f <;> decide

/-- Each letter is that of one flag, and is no dash. -/
theorem ofShort?_short {letter : Char} (h : f.short? = some letter) :
    Flag.ofShort? letter = some f ∧ letter ≠ '-' := by
  cases f <;> cases h <;> decide

theorem takeWhile_name {name : List Char} (h : '=' ∉ name) (rest : List Char) :
    (name ++ rest).takeWhile (· ≠ '=') = name ++ rest.takeWhile (· ≠ '=') := by
  refine List.takeWhile_append_of_pos fun c hc =>
    decide_eq_true fun (heq : c = '=') => ?_
  exact h (heq ▸ hc)

/-- A name without an equality sign has no value with it. -/
theorem splitValue_name {name : List Char} (h : '=' ∉ name) :
    splitValue name = (String.ofList name, none) := by
  have all : name.takeWhile (· ≠ '=') = name := by
    have whole := takeWhile_name h []
    rwa [List.append_nil, List.takeWhile_nil, List.append_nil] at whole
  rw [splitValue, all, List.drop_length]

/-- The first equality sign is between the name and the value. -/
theorem splitValue_joined {name : List Char} (h : '=' ∉ name)
    (value : List Char) :
    splitValue (name ++ '=' :: value)
      = (String.ofList name, some (String.ofList value)) := by
  have first : (name ++ '=' :: value).takeWhile (· ≠ '=') = name := by
    rw [takeWhile_name h]
    simp
  rw [splitValue, first, List.drop_left]

/-- No flag has such a sign in its name. -/
theorem no_equality_long (f : Flag) : '=' ∉ f.long.toList := by
  cases f <;> decide

-- ============================================================ one argument

/-- Two dashes begin a name. -/
theorem step_long {argument : String} {rest : List Char}
    (h : argument.toList = '-' :: '-' :: rest) (p : Progress) :
    p.step argument = p.longFlag (splitValue rest).1 (splitValue rest).2 := by
  rw [step, h]
  rfl

/-- One dash begins a letter. -/
theorem step_short {argument : String} {letter : Char} {rest : List Char}
    (h : argument.toList = '-' :: letter :: rest) (ne : letter ≠ '-')
    (p : Progress) : p.step argument = p.shortFlag letter rest := by
  rw [step, h]
  split
  · next same =>
    cases same
    exact absurd rfl ne
  · next same =>
    cases same
    rfl
  · next other => exact absurd rfl (other letter rest)

/-- A flag that takes values, by its name. -/
theorem longFlag_long (takes : f.Takes value) (v : Option String)
    (p : Progress) : p.longFlag f.long v = p.flag f v := by
  rw [longFlag, ofLong?_long]
  cases f with
  | help | version => exact takes.elim
  | _ => rfl

/-- However it is written, a flag is read as one. -/
theorem step_mark {g : Given} (takes : g.flag.Takes g.value) (p : Progress) :
    p.step g.mark = p.flag g.flag none ∧
      p.step (g.mark ++ "=" ++ g.value) = p.flag g.flag (some g.value) := by
  unfold Given.mark
  split
  · next letter _ hletter =>
    obtain ⟨found, ne⟩ := ofShort?_short hletter
    constructor
    · have chars : (String.ofList ['-', letter]).toList = ['-', letter] :=
        String.toList_ofList
      rw [step_short chars ne, shortFlag, found]
    · have chars : (String.ofList ['-', letter] ++ "=" ++ g.value).toList
          = '-' :: letter :: '=' :: g.value.toList := by
        rw [String.toList_append, String.toList_append, String.toList_ofList]
        rfl
      rw [step_short chars ne, shortFlag, found]
      dsimp only
      rw [String.ofList_toList]
  · constructor
    · have chars :
          ("--" ++ g.flag.long).toList = '-' :: '-' :: g.flag.long.toList := by
        rw [String.toList_append]
        rfl
      rw [step_long chars, splitValue_name (no_equality_long g.flag),
        String.ofList_toList]
      exact longFlag_long takes none p
    · have chars : ("--" ++ g.flag.long ++ "=" ++ g.value).toList
          = '-' :: '-' :: (g.flag.long.toList ++ '=' :: g.value.toList) := by
        rw [String.toList_append, String.toList_append, String.toList_append,
          List.append_assoc]
        rfl
      rw [step_long chars, splitValue_joined (no_equality_long g.flag),
        String.ofList_toList, String.ofList_toList]
      exact longFlag_long takes (some g.value) p

/-- The value of a flag that waits for it. -/
theorem step_value {g : Given} (h : g.WellFormed) (joined : g.joined = false)
    (f : Flag) :
    step { q with pending := .flag f } g.value
      = .ok { q with pending := .value f g.value } := by
  rw [step]
  split
  · next rest hvalue =>
    have only := h.apart joined (by rw [hvalue]; rfl)
    rw [only] at hvalue
    cases hvalue
  · next letter rest _ hvalue =>
    have only := h.apart joined (by rw [hvalue]; rfl)
    rw [only] at hvalue
    cases hvalue
  · rfl

-- ================================================================ reading

/-- Reading takes one argument after the other, unless one says that no flags
follow. -/
theorem read_cons {argument : String} (h : argument ≠ "--") (env : Environment)
    (p : Progress) (rest : List String) :
    read env p (argument :: rest) = p.step argument >>= fun p =>
      read env p rest := by
  rw [read]
  · exact fun same _ => h same
  · exact fun _ _ same _ => h same

/-- A flag that was not used takes its value. -/
theorem take_new {o : Options} (new : f ∉ q.used)
    (h : q.options.set f value = .ok o) :
    q.take f value
      = ({ q with options := o, used := q.used ++ [f] }, none) := by
  rw [take, if_neg new]
  dsimp only
  rw [h]

/-- Where reading stands after all that is given. -/
def having (gs : List Given) : Progress :=
  { options := Given.options gs, used := gs.map Given.flag }

theorem take_having {gs : List Given} {g : Given}
    (takes : g.flag.Takes g.value) (new : g.flag ∉ gs.map Given.flag) :
    (having gs).take g.flag g.value = (having (gs ++ [g]), none) := by
  rw [take_new new (Options.set_given takes new), having, having,
    List.map_append]
  rfl

end Progress

namespace Given

/-- A flag is written with a dash, and more than a second one after it. -/
theorem mark_toList (g : Given) :
    ∃ rest, rest ≠ [] ∧ rest ≠ ['-'] ∧ g.mark.toList = '-' :: rest := by
  unfold mark
  split
  · next letter _ hletter =>
    obtain ⟨-, ne⟩ := Progress.ofShort?_short hletter
    refine ⟨[letter], List.cons_ne_nil _ _, fun same => ne ?_,
      String.toList_ofList⟩
    cases same
    rfl
  · refine ⟨'-' :: g.flag.long.toList, List.cons_ne_nil _ _, ?_, ?_⟩
    · cases g.flag <;> decide
    · rw [String.toList_append]
      rfl

theorem mark_append_ne (g : Given) (after : String) :
    g.mark ++ after ≠ "--" := by
  obtain ⟨rest, some, other, hrest⟩ := g.mark_toList
  intro same
  have chars : '-' :: (rest ++ after.toList) = ['-', '-'] := by
    rw [← List.cons_append, ← hrest, ← String.toList_append, same]
    rfl
  obtain ⟨-, same⟩ := List.cons.inj chars
  rcases List.append_eq_singleton_iff.1 same with ⟨h, -⟩ | ⟨h, -⟩
  · exact some h
  · exact other h

/-- A value in an argument of its own is not the mark that no flags follow. -/
theorem WellFormed.value_ne {g : Given} (h : g.WellFormed)
    (joined : g.joined = false) : g.value ≠ "--" := by
  intro same
  have only := h.apart joined (by rw [same]; rfl)
  rw [same] at only
  exact absurd only (by decide)

end Given

namespace Progress

/-- What is given next takes its place behind what is given before. -/
theorem read_given {p : Progress} {gs : List Given} {g : Given}
    (reads : p.Reads (having gs)) (h : g.WellFormed)
    (new : g.flag ∉ gs.map Given.flag) (env : Environment)
    (rest : List String) :
    ∃ p' : Progress, p'.Reads (having (gs ++ [g])) ∧
      read env p (g.arguments ++ rest) = read env p' rest := by
  have taken := take_having h.takes new
  obtain ⟨alone, together⟩ := step_mark h.takes p
  unfold Given.arguments
  by_cases joined : g.joined
  · refine ⟨having (gs ++ [g]), rfl, ?_⟩
    rw [if_pos joined, List.singleton_append, String.append_assoc,
      read_cons (g.mark_append_ne _), ← String.append_assoc, together,
      reads.flag_joined h.takes taken]
    rfl
  · refine ⟨{ having gs with pending := .value g.flag g.value }, taken, ?_⟩
    have apart : g.joined = false := Bool.eq_false_iff.2 joined
    have mark_ne : g.mark ≠ "--" := by
      have ne := g.mark_append_ne ""
      rwa [String.append_empty] at ne
    have waits :
        p.step g.mark = .ok { having gs with pending := .flag g.flag } := by
      rw [alone, reads.flag_apart h.takes]
    have valued := step_value (q := having gs) h apart g.flag
    rw [if_neg joined, List.cons_append, List.singleton_append,
      read_cons mark_ne, waits]
    dsimp only [bind, Except.bind]
    rw [read_cons (h.value_ne apart), valued]
    rfl

/-- All that is given takes its place, in whatever order it is given. -/
theorem read_all_given (env : Environment) {gs : List Given}
    (wellFormed : ∀ g ∈ gs, g.WellFormed) :
    ∀ {p : Progress} {before : List Given}, p.Reads (having before) →
      ((before ++ gs).map Given.flag).Nodup →
      ∃ p' : Progress, p'.Reads (having (before ++ gs)) ∧
        read env p (gs.flatMap Given.arguments) = p'.finish env := by
  induction gs with
  | nil =>
      intro p before reads _
      refine ⟨p, by rwa [List.append_nil], ?_⟩
      rw [List.flatMap_nil, read]
  | cons g gs ih =>
      intro p before reads once
      have new : g.flag ∉ before.map Given.flag := by
        rw [List.map_append, List.map_cons] at once
        exact fun h =>
          (List.nodup_append.1 once).2.2 _ h _ (List.mem_cons_self ..) rfl
      obtain ⟨q, qreads, hq⟩ :=
        read_given reads (wellFormed g (List.mem_cons_self ..)) new env
          (gs.flatMap Given.arguments)
      rw [List.append_cons] at once ⊢
      obtain ⟨p', reads', hp'⟩ :=
        ih (fun g' h => wellFormed g' (List.mem_cons_of_mem _ h)) qreads
          once
      refine ⟨p', reads', ?_⟩
      rw [List.flatMap_cons, hq, hp']

/-- The environment names the configuration file if nothing else does. -/
theorem finish_given {p : Progress} {gs : List Given} {env : Environment}
    (reads : p.Reads (having gs)) (named : env.get? configVariable ≠ some "") :
    ∃ q, p.finish env = .ok q ∧ q.options = Given.optionsIn env gs := by
  rw [finish, reads.settled, Given.optionsIn]
  cases hfile : env.get? configVariable with
  | none => exact ⟨having gs, rfl, by rw [Option.or_none]; rfl⟩
  | some file =>
    rw [hfile] at named
    have file_ne : file ≠ "" := fun same => named (congrArg some same)
    dsimp only
    by_cases used : Flag.config ∈ (having gs).used
    · rw [if_pos used]
      obtain ⟨value, hvalue⟩ := Given.valueOf_of_mem used
      refine ⟨having gs, rfl, ?_⟩
      rw [having, Given.options, hvalue, Option.some_or]
    · rw [if_neg used]
      have set : (having gs).options.set .config file
          = .ok { Given.options gs with config := some file } := by
        rw [Options.set, isEmpty_false file_ne]
        rfl
      have reads : (having gs).Reads (having gs) := rfl
      rw [reads.flag_joined (show Flag.config.Takes file from file_ne)
        (take_new used set)]
      refine ⟨_, rfl, ?_⟩
      rw [Given.valueOf_of_not_mem used, Option.none_or]
      rfl

end Progress

/-- The options that are read from arguments are those that are given, in
whatever order and way they are written; and the environment may name the
configuration file. -/
theorem Options.ofArguments_given {gs : List Given} {env : Environment}
    (wellFormed : ∀ g ∈ gs, g.WellFormed) (once : (gs.map Given.flag).Nodup)
    (named : env.get? configVariable ≠ some "") :
    Options.ofArguments env (gs.flatMap Given.arguments)
      = .ok (Given.optionsIn env gs) := by
  obtain ⟨p, reads, hp⟩ :=
    @Progress.read_all_given env gs wellFormed {} [] rfl once
  obtain ⟨q, hq, options⟩ := Progress.finish_given reads named
  rw [List.nil_append] at options
  rw [ofArguments, hp, hq, ← options]
  rfl

end PatternCheck.CommandLine
