import PatternCheck.Server.Lifecycle

/-
Waiting for a signal to stop. There are two signals that say so, and
either of them will do. Someone who waits asks again and again: at the
first time the server begins to listen for both. Where it cannot listen
for one of them this is logged once, and that signal never comes.
-/

namespace PatternCheck.Server

open Log (Event)

/-- A signal to stop. -/
inductive Signal where
  /-- From the keyboard. -/
  | interrupt
  /-- From other programs. -/
  | terminate
deriving Repr, DecidableEq, Inhabited

namespace Signal

/-- The name of a signal in the log. -/
def name : Signal → String
  | interrupt => "ctrl-c"
  | terminate => "SIGTERM"

/-- The other signal. -/
def other : Signal → Signal
  | interrupt => terminate
  | terminate => interrupt

/-- What is logged if nobody can listen for a signal. -/
def unheard (s : Signal) (reason : String) : Event :=
  { level := .error
    target := "regviz_api::server"
    message := "failed to listen for " ++ s.name
    fields := [("error", .text reason)] }

end Signal

/-- How far listening for a signal has come. -/
inductive Ear where
  /-- It has not begun. -/
  | idle
  | listening
  /-- It is not possible. -/
  | deaf
deriving Repr, DecidableEq, Inhabited

/-- What the world is like at the moment of a question. -/
structure Sight where
  /-- Which signal is looked at first. -/
  first : Signal
  /-- Why nobody can listen for a signal, if it is so. -/
  obstacle : Signal → Option String
  /-- Whether a signal has come. -/
  given : Signal → Bool

/-- Listens for a signal: how far this has come now, whether the signal is
there, and what is logged. -/
def Ear.listen (e : Ear) (sight : Sight) (s : Signal) :
    Ear × Bool × List Event :=
  match e with
  | .idle =>
    match sight.obstacle s with
    | some reason => (.deaf, false, [s.unheard reason])
    | none => (.listening, sight.given s, [])
  | .listening => (.listening, sight.given s, [])
  | .deaf => (.deaf, false, [])

/-- Someone who waits for a signal to stop. -/
structure Waiting where
  ear : Signal → Ear := fun _ => .idle

namespace Waiting

/-- Listens for one signal. -/
def listen (w : Waiting) (sight : Sight) (s : Signal) :
    Waiting × Bool × List Event :=
  let (e, ready, events) := (w.ear s).listen sight s
  ({ ear := fun t => if t = s then e else w.ear t }, ready, events)

/-- What is logged when a signal has come. -/
def received : Event := event "shutdown signal received"

/-- Asks whether a signal has come. The second signal is looked at only if
the first one has not come. -/
def poll (w : Waiting) (sight : Sight) : Waiting × Bool × List Event :=
  let (w, ready, before) := w.listen sight sight.first
  if ready then (w, true, before ++ [received])
  else
    let (w, ready, after) := w.listen sight sight.first.other
    (w, ready, before ++ after ++ if ready then [received] else [])

/-- Asks several times: the answers, each with what is logged. -/
def polls (w : Waiting) : List Sight → List (Bool × List Event)
  | [] => []
  | sight :: rest =>
    let (w, answer) := w.poll sight
    answer :: w.polls rest

end Waiting

end PatternCheck.Server
