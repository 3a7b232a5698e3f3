import PatternCheck.Proofs.Http.Responses
import PatternCheck.Service.Site

/-
The way of an answer out of a service. Whoever answers a request, an
endpoint or the directory of assets, stands behind the same layers: the
limit on declared lengths, the leave for pages from elsewhere, and the last
words about the response itself. What these make of an answer depends on
four things only (`Passage`), and the answer of the service is what they
make of the answer behind them (`Site.answer_eq_through`).

So two requests, or two services, that agree in these four things can be
compared by what stands behind the layers alone.
-/

namespace PatternCheck.Service

open Http (Response)
open Log (Event)
open Site (Answer quiet)

/-- What decides about an answer on its way out of a service. -/
structure Passage where
  /-- Whether pages from elsewhere have leave to read answers. -/
  cors : Bool
  /-- Whether the request says that its body is too long. -/
  tooLong : Bool
  /-- The method of the request. -/
  method : String
  /-- The methods of the endpoint that the request is for, if there is
  one. -/
  methods : Option (List String)

namespace Passage

-- ============================================================== the layers

/-- The limit on declared lengths. -/
def limited (p : Passage) (a : Answer) : Answer :=
  if p.tooLong then quiet .declaredTooLong else a

/-- The leave for pages from elsewhere. -/
def shared (p : Passage) (a : Answer) : Answer :=
  if !p.cors then p.limited a
  else if p.method = "OPTIONS" then quiet Http.CrossOrigin.preflight
  else ((p.limited a).1.adding Http.CrossOrigin.leave, (p.limited a).2)

/-- The last words about the response of an endpoint. -/
def completed (p : Passage) (r : Response) : Response :=
  match p.methods with
  | some ms =>
    (if p.method ∈ ms then
      r else r.adding [("allow", String.intercalate "," ms)]).measured
  | none => r

/-- An answer after all layers. -/
def through (p : Passage) (a : Answer) : Answer :=
  ((p.completed (p.shared a).1).toMethod p.method, (p.shared a).2)

-- ========================================================= what is changed

variable (p : Passage) (a : Answer)

theorem completed_status (r : Response) :
    (p.completed r).status = r.status := by
  unfold completed
  cases p.methods with
  | none => rfl
  | some ms =>
      show Response.status (Response.measured _) = _
      rw [Response.measured_status]
      split <;> rfl

theorem completed_body (r : Response) : (p.completed r).body = r.body := by
  unfold completed
  cases p.methods with
  | none => rfl
  | some ms =>
      show Response.body (Response.measured _) = _
      rw [Response.measured_body]
      split <;> rfl

theorem through_events : (p.through a).2 = (p.shared a).2 := rfl

/-- A request that asks if another one would be allowed is answered by the
second layer alone. -/
theorem shared_of_question (hcors : p.cors = true)
    (hmethod : p.method = "OPTIONS") :
    p.shared a = quiet Http.CrossOrigin.preflight := by
  unfold shared
  rw [hcors, if_neg (by decide), if_pos hmethod]

/-- Every other request is answered by what is behind, with headers added
where there is leave. -/
theorem shared_of_not_question (h : ¬ (p.cors = true ∧ p.method = "OPTIONS")) :
    p.shared a =
      ((p.limited a).1.adding (if p.cors then Http.CrossOrigin.leave else []),
        (p.limited a).2) := by
  unfold shared
  cases hcors : p.cors with
  | false => simp [Response.adding]
  | true =>
      have hmethod : p.method ≠ "OPTIONS" := fun hm => h ⟨hcors, hm⟩
      rw [if_neg (by decide), if_neg hmethod]
      rfl

/-- The status of an answer, by what has the first word about it. -/
theorem through_status :
    (p.through a).1.status =
      if p.cors = true ∧ p.method = "OPTIONS" then 200
      else if p.tooLong then 413 else a.1.status := by
  show Response.status (Response.toMethod _ _) = _
  rw [Response.toMethod_status, completed_status]
  by_cases hquestion : p.cors = true ∧ p.method = "OPTIONS"
  · rw [p.shared_of_question a hquestion.1 hquestion.2, if_pos hquestion]
    rfl
  · rw [p.shared_of_not_question a hquestion, if_neg hquestion,
      Response.adding_status]
    unfold limited
    split <;> rfl

/-- An answer without content has none after the last words about it. -/
theorem through_body_of_shared (h : (p.shared a).1.body = []) :
    (p.through a).1.body = [] := by
  show Response.body (Response.toMethod _ _) = _
  unfold Response.toMethod
  split
  · rfl
  · rw [completed_body, h]

/-- An answer without content has none after all layers, unless it is
replaced because of the declared length. -/
theorem through_body (htooLong : p.tooLong = false) (ha : a.1.body = []) :
    (p.through a).1.body = [] := by
  apply through_body_of_shared
  by_cases hquestion : p.cors = true ∧ p.method = "OPTIONS"
  · rw [p.shared_of_question a hquestion.1 hquestion.2]
    rfl
  · rw [p.shared_of_not_question a hquestion, Response.adding_body]
    unfold limited
    rw [htooLong, if_neg (by decide)]
    exact ha

/-- What is logged is what is logged behind, or nothing. -/
theorem through_events_eq : (p.through a).2 = a.2 ∨ (p.through a).2 = [] := by
  rw [through_events]
  by_cases hquestion : p.cors = true ∧ p.method = "OPTIONS"
  · rw [p.shared_of_question a hquestion.1 hquestion.2]
    exact .inr rfl
  · rw [p.shared_of_not_question a hquestion]
    show (p.limited a).2 = _ ∨ (p.limited a).2 = _
    unfold limited
    split
    · exact .inr rfl
    · exact .inl rfl

/-- The layers do not look at what is logged. -/
theorem through_map (f : Event → Event) :
    p.through (a.1, a.2.map f) = ((p.through a).1, (p.through a).2.map f) := by
  have hlimited :
      p.limited (a.1, a.2.map f)
        = ((p.limited a).1, (p.limited a).2.map f) := by
    unfold limited
    split <;> rfl
  have hshared :
      p.shared (a.1, a.2.map f) = ((p.shared a).1, (p.shared a).2.map f) := by
    unfold shared
    rw [hlimited]
    split
    · rfl
    · split <;> rfl
  unfold through
  rw [hshared]

end Passage

-- ================================================================ answers

namespace Site

/-- The passage of the answer to a request. -/
def passage (s : Site) (r : Http.Request) : Passage where
  cors := s.config.cors
  tooLong := r.declaresTooMuch s.config.maxBodyBytes
  method := r.method
  methods := (Endpoint.ofPath? r.target.path).map Endpoint.methods

/-- What a service answers is what stands behind the layers, after them. -/
theorem answer_eq_through (s : Site) (r : Http.Request) :
    s.answer r = (s.passage r).through (s.dispatch r) := by
  have hlimited : s.limited r = (s.passage r).limited (s.dispatch r) := rfl
  have hshared : s.shared r = (s.passage r).shared (s.dispatch r) := by
    unfold shared Passage.shared Http.CrossOrigin.isQuestion
    rw [hlimited]
    simp only [decide_eq_true_eq]
    rfl
  unfold answer Passage.through Passage.completed
  rw [hshared]
  simp only [passage]
  cases Endpoint.ofPath? r.target.path <;> rfl

end Site

end PatternCheck.Service
