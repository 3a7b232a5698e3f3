import PatternCheck.Server.Shutdown

/-
Questions whether a signal to stop has come. What a question does is what
the ears for the two signals do: it is answered with yes if either of them
hears its signal, and otherwise both have been asked (`poll_of_heard`,
`poll_of_silent`).

An ear that could not listen at the first question is deaf for good: it does
not try again, and says nothing more. So whoever can listen for neither
signal waits for ever, and logs this just once (`polls_unheard`). One ear
that listens is enough to be stopped (`polls_heard`).
-/

namespace PatternCheck.Server

open Log (Event)

variable {w : Waiting} {sight : Sight} {s : Signal}

theorem Signal.other_ne (s : Signal) : s.other ≠ s := by
  cases s <;> decide

/-- There are two signals. -/
theorem Signal.eq_or_eq_other (s t : Signal) : s = t ∨ s = t.other := by
  cases s <;> cases t <;> decide

/-- What is logged about a signal that nobody can listen for does not say
that one has come. -/
theorem Signal.message_unheard (s : Signal) (reason : String) :
    (s.unheard reason).message ≠ "shutdown signal received" := by
  cases s with
  | interrupt =>
      have other :
          "failed to listen for ctrl-c" ≠ "shutdown signal received" := by
        decide
      exact other
  | terminate =>
      have other :
          "failed to listen for SIGTERM" ≠ "shutdown signal received" := by
        decide
      exact other

namespace Waiting

-- =============================================================== one ear

/-- What the ear for a signal makes of a question. -/
def heard (w : Waiting) (sight : Sight) (s : Signal) :
    Ear × Bool × List Event :=
  (w.ear s).listen sight s

/-- An ear that cannot be put up says so, and is deaf from then on. -/
theorem heard_obstacle {reason : String} (idle : w.ear s = .idle)
    (obstacle : sight.obstacle s = some reason) :
    w.heard sight s = (.deaf, false, [s.unheard reason]) := by
  rw [heard, idle, Ear.listen, obstacle]

/-- An ear that can be put up listens from then on. -/
theorem heard_free (idle : w.ear s = .idle) (free : sight.obstacle s = none) :
    w.heard sight s = (.listening, sight.given s, []) := by
  rw [heard, idle, Ear.listen, free]

theorem heard_listening (listening : w.ear s = .listening) (sight : Sight) :
    w.heard sight s = (.listening, sight.given s, []) := by
  rw [heard, listening, Ear.listen]

/-- A deaf ear hears nothing, and says no more about it. -/
theorem heard_deaf (deaf : w.ear s = .deaf) (sight : Sight) :
    w.heard sight s = (.deaf, false, []) := by
  rw [heard, deaf, Ear.listen]

/-- No ear hears a signal that is not there. -/
theorem heard_absent (absent : sight.given s = false) :
    (w.heard sight s).2.1 = false := by
  cases ear : w.ear s with
  | idle =>
      cases obstacle : sight.obstacle s with
      | none => rw [heard_free ear obstacle, absent]
      | some reason => rw [heard_obstacle ear obstacle]
  | listening => rw [heard_listening ear, absent]
  | deaf => rw [heard_deaf ear]

theorem ear_listen_self (w : Waiting) (sight : Sight) (s : Signal) :
    (w.listen sight s).1.ear s = (w.heard sight s).1 := if_pos rfl

/-- Listening for one signal leaves the ear for the other one as it is. -/
theorem ear_listen_of_ne {t : Signal} (h : t ≠ s) :
    (w.listen sight s).1.ear t = w.ear t := if_neg h

theorem heard_listen_of_ne {t : Signal} (h : t ≠ s) :
    (w.listen sight s).1.heard sight t = w.heard sight t := by
  rw [heard, ear_listen_of_ne h, heard]

-- ========================================================== one question

/-- A question by what the ears make of it. -/
theorem poll_eq (w : Waiting) (sight : Sight) :
    let s := sight.first
    let asked := (w.listen sight s).1
    w.poll sight =
      if (w.heard sight s).2.1 then
        (asked, true, (w.heard sight s).2.2 ++ [received])
      else ((asked.listen sight s.other).1, (w.heard sight s.other).2.1,
        (w.heard sight s).2.2 ++ (w.heard sight s.other).2.2
          ++ if (w.heard sight s.other).2.1 then [received] else []) := by
  intro s asked
  have other : asked.listen sight s.other
      = ((asked.listen sight s.other).1, (w.heard sight s.other).2) := by
    rw [← heard_listen_of_ne s.other_ne (w := w)]
    rfl
  rw [poll,
    show w.listen sight sight.first = (asked, (w.heard sight s).2) from rfl]
  dsimp only
  rw [other]

/-- As long as no signal comes, both ears are asked, the one for the signal
that is looked at first before the other. -/
theorem poll_of_silent (silent : ∀ s, (w.heard sight s).2.1 = false) :
    (∀ s, (w.poll sight).1.ear s = (w.heard sight s).1) ∧
      (w.poll sight).2 = (false,
        (w.heard sight sight.first).2.2
          ++ (w.heard sight sight.first.other).2.2) := by
  rw [poll_eq]
  simp only [silent, Bool.false_eq_true, if_false, List.append_nil, and_true]
  intro s
  rcases s.eq_or_eq_other sight.first with rfl | rfl
  · rw [ear_listen_of_ne sight.first.other_ne.symm, ear_listen_self]
  · rw [ear_listen_self, heard_listen_of_ne sight.first.other_ne]

/-- A signal that comes is an answer, whichever signal is looked at first. -/
theorem poll_of_heard (h : (w.heard sight s).2.1 = true) :
    ∃ before, (w.poll sight).2 = (true, before ++ [received]) := by
  rw [poll_eq]
  by_cases first : (w.heard sight sight.first).2.1 = true
  · rw [if_pos first]
    exact ⟨_, rfl⟩
  · have other : (w.heard sight sight.first.other).2.1 = true := by
      rcases s.eq_or_eq_other sight.first with rfl | rfl
      · exact absurd h first
      · exact h
    rw [if_neg first, if_pos other, other]
    exact ⟨_, rfl⟩

theorem polls_cons (w : Waiting) (sight : Sight) (later : List Sight) :
    w.polls (sight :: later) = (w.poll sight).2
      :: (w.poll sight).1.polls later := rfl

-- ========================================================= no ear is left

/-- Neither signal can come any more. -/
def Deaf (w : Waiting) : Prop := ∀ s, w.ear s = .deaf

/-- A question that finds out that nobody can listen. -/
theorem poll_unheard {reason : Signal → String} (idle : ∀ s, w.ear s = .idle)
    (obstacle : ∀ s, sight.obstacle s = some (reason s)) :
    (w.poll sight).1.Deaf ∧ (w.poll sight).2 = (false,
      [sight.first.unheard (reason sight.first),
        sight.first.other.unheard (reason sight.first.other)]) := by
  have heard (s : Signal) :
      w.heard sight s = (.deaf, false, [s.unheard (reason s)]) :=
    heard_obstacle (idle s) (obstacle s)
  obtain ⟨ears, answer⟩ := poll_of_silent fun s => by rw [heard]
  refine ⟨fun s => by rw [ears, heard], ?_⟩
  rw [answer, heard, heard]
  rfl

/-- Whoever is deaf gives no answer, logs nothing, and stays deaf. -/
theorem Deaf.poll (h : w.Deaf) (sight : Sight) :
    (w.poll sight).1.Deaf ∧ (w.poll sight).2 = (false, []) := by
  have heard (s : Signal) : w.heard sight s = (.deaf, false, []) :=
    heard_deaf (h s) sight
  obtain ⟨ears, answer⟩ := poll_of_silent fun s => by rw [heard]
  refine ⟨fun s => by rw [ears, heard], ?_⟩
  rw [answer, heard, heard]
  rfl

/-- So it is however often the question is asked, and in whatever world. -/
theorem Deaf.polls (h : w.Deaf) (sights : List Sight) :
    w.polls sights = sights.map fun _ => (false, []) := by
  induction sights generalizing w with
  | nil => rfl
  | cons sight later ih =>
      obtain ⟨deaf, answer⟩ := h.poll sight
      rw [polls_cons, List.map_cons, answer, ih deaf]

/-- Losing both signals never stops anything. If nobody can listen for
either signal when the question is asked for the first time, then no answer
is ever that a signal has come, whichever signal is looked at first each
time. With the first answer each of the two failures is logged once, as an
error; with all others nothing is logged, and never that a signal has come. -/
theorem polls_unheard (reason : Signal → String)
    (obstacle : ∀ s, sight.obstacle s = some (reason s)) (later : List Sight) :
    ∃ failures,
      ({} : Waiting).polls (sight :: later)
        = (false, failures) :: later.map (fun _ => (false, [])) ∧
      failures.Perm [Signal.interrupt.unheard (reason .interrupt),
        Signal.terminate.unheard (reason .terminate)] ∧
      (∀ e ∈ failures, e.level = .error) ∧
      ∀ answer ∈ ({} : Waiting).polls (sight :: later), ∀ e ∈ answer.2,
        e.message ≠ "shutdown signal received" := by
  obtain ⟨deaf, answer⟩ := poll_unheard (w := {}) (fun _ => rfl) obstacle
  have answers : ({} : Waiting).polls (sight :: later)
      = (false, [sight.first.unheard (reason sight.first),
          sight.first.other.unheard (reason sight.first.other)])
        :: later.map fun _ => (false, []) := by
    rw [polls_cons, answer, deaf.polls]
  refine ⟨_, answers, ?_, ?_, ?_⟩
  · cases sight.first with
    | interrupt => exact .refl _
    | terminate => exact .swap _ _ _
  · exact List.forall_mem_cons.2
      ⟨rfl, List.forall_mem_cons.2 ⟨rfl, List.forall_mem_nil _⟩⟩
  · rw [answers]
    refine List.forall_mem_cons.2 ⟨?_, fun answer quiet e he => ?_⟩
    · exact List.forall_mem_cons.2 ⟨Signal.message_unheard _ _,
        List.forall_mem_cons.2
        ⟨Signal.message_unheard _ _, List.forall_mem_nil _⟩⟩
    · obtain ⟨-, -, rfl⟩ := List.mem_map.1 quiet
      exact absurd he List.not_mem_nil

/-- Both signals are there at each of three questions, and from the second
one on it would be possible to listen for them; it is too late. -/
theorem polls_unheard_thrice :
    let lost : Sight :=
      ⟨.terminate, fun _ => some "signal driver gone", fun _ => true⟩
    let fine : Sight := ⟨.interrupt, fun _ => none, fun _ => true⟩
    (∀ s, lost.obstacle s = some "signal driver gone") ∧
      ∃ failures,
        ({} : Waiting).polls [lost, fine, fine]
          = [(false, failures), (false, []), (false, [])] ∧
        failures.Perm [Signal.interrupt.unheard "signal driver gone",
          Signal.terminate.unheard "signal driver gone"] := by
  intro lost fine
  have obstacle : ∀ s, lost.obstacle s = some "signal driver gone" :=
    fun _ => rfl
  obtain ⟨failures, answers, both, -⟩ :=
    polls_unheard (fun _ => "signal driver gone") obstacle [fine, fine]
  exact ⟨obstacle, failures, answers, both⟩

-- ========================================================= an ear is left

/-- The last of some answers, and no other, is that a signal has come. -/
def EndsAtLast (answers : List (Bool × List Event)) : Prop :=
  ∃ earlier before, answers = earlier ++ [(true, before ++ [received])] ∧
    ∀ answer ∈ earlier, answer.1 = false

theorem EndsAtLast.cons {answers : List (Bool × List Event)}
    (h : EndsAtLast answers) {answer : Bool × List Event}
    (unready : answer.1 = false) : EndsAtLast (answer :: answers) := by
  obtain ⟨earlier, before, rfl, all⟩ := h
  exact ⟨answer :: earlier, before, rfl, List.forall_mem_cons.2 ⟨unready, all⟩⟩

/-- Whoever listens for a signal is still there to hear it when it comes,
after however many questions at which nothing came. -/
theorem polls_listening (listening : w.ear s = .listening) {quiet : List Sight}
    (absent : ∀ q ∈ quiet, ∀ t, q.given t = false) {now : Sight}
    (given : now.given s = true) : EndsAtLast (w.polls (quiet ++ [now])) := by
  induction quiet generalizing w with
  | nil =>
      have here : (w.heard now s).2.1 = true := by
        rw [heard_listening listening, given]
      obtain ⟨before, answer⟩ := poll_of_heard here
      refine ⟨[], before, ?_, List.forall_mem_nil _⟩
      rw [List.nil_append, polls_cons, answer]
      rfl
  | cons q quiet ih =>
      obtain ⟨first, rest⟩ := List.forall_mem_cons.1 absent
      obtain ⟨ears, answer⟩ :=
        poll_of_silent (w := w) fun t => heard_absent (first t)
      have still : (w.poll q).1.ear s = .listening := by
        rw [ears, heard_listening listening]
      rw [List.cons_append, polls_cons]
      exact (ih still rest).cons (by rw [answer])

/-- One signal that can be listened for is enough: the wait is over when it
comes, whatever has become of the other one. -/
theorem polls_heard (free : sight.obstacle s = none) {quiet : List Sight}
    (absent : ∀ q ∈ sight :: quiet, ∀ t, q.given t = false) {now : Sight}
    (given : now.given s = true) :
    EndsAtLast (({} : Waiting).polls (sight :: quiet ++ [now])) := by
  obtain ⟨first, rest⟩ := List.forall_mem_cons.1 absent
  obtain ⟨ears, answer⟩ :=
    poll_of_silent (w := {}) fun t => heard_absent (first t)
  have listening : (({} : Waiting).poll sight).1.ear s = .listening := by
    rw [ears, heard_free rfl free]
  rw [List.cons_append, polls_cons]
  exact (polls_listening listening rest given).cons (by rw [answer])

end Waiting

end PatternCheck.Server
