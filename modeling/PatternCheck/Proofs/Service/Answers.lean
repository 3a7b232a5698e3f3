import PatternCheck.Proofs.Http.Responses
import PatternCheck.Service.Site

/-
How the parts of a service work together on a request that an endpoint
takes. Whatever stands in front of the endpoint either refuses the request
for its length or lets it through, and afterwards only adds headers
(`answer_of_endpoint`). What is answered is then a matter of the endpoint
alone, and so is what is logged.
-/

namespace PatternCheck.Service

open Http (Response)

namespace Endpoint

theorem ofPath?_path (e : Endpoint) : ofPath? e.path = some e := by
  cases e <;> decide

/-- No endpoint takes what is only a question. -/
theorem not_question {e : Endpoint} {r : Http.Request}
    (h : r.method ∈ e.methods) : Http.CrossOrigin.isQuestion r = false := by
  rw [Http.CrossOrigin.isQuestion, decide_eq_false_iff_not]
  intro hm
  rw [hm] at h
  revert h
  cases e <;> decide

/-- An endpoint that checks patterns checks what is in a body that may be
read. -/
theorem answer_of_within {e : Endpoint} (he : e ≠ .health)
    {limits : Pattern.Limits} {limit : Nat} {r : Http.Request}
    (h : r.body.length ≤ r.readable limit) :
    e.answer limits limit r = checkAnswer limits e.path r.body := by
  have hbody : r.bodyWithin? limit = some r.body := if_pos h
  rw [answer, hbody]
  exact he

/-- A body that may not be read is not checked. -/
theorem answer_of_beyond {e : Endpoint} (he : e ≠ .health)
    {limits : Pattern.Limits} {limit : Nat} {r : Http.Request}
    (h : ¬ r.body.length ≤ r.readable limit) :
    e.answer limits limit r = (.foundTooLong, []) := by
  have hbody : r.bodyWithin? limit = none := if_neg h
  rw [answer, hbody]
  exact he

end Endpoint

namespace Site

/-- The answer of an endpoint to a request by one of its methods, unless the
request says that it is too long. -/
def admitted (s : Site) (e : Endpoint) (r : Http.Request) : Answer :=
  Http.guardLength s.config.maxBodyBytes quiet
    (e.answer s.config.limits s.config.maxBodyBytes) r

/-- The headers that a service adds to every answer. -/
def sharing (s : Site) : Http.Headers :=
  if s.config.cors then Http.CrossOrigin.leave else []

/-- A request to an endpoint by one of its methods is answered by the
endpoint; the service adds headers and no events. -/
theorem answer_of_endpoint (s : Site) {e : Endpoint} {r : Http.Request}
    (hpath : r.target.path = e.path) (hmethod : r.method ∈ e.methods) :
    s.answer r
      = ((((s.admitted e r).1.adding s.sharing).measured).toMethod r.method,
      (s.admitted e r).2) := by
  have hroute : Endpoint.ofPath? r.target.path = some e := by
    rw [hpath, Endpoint.ofPath?_path]
  have hdispatch :
      s.dispatch r = e.answer s.config.limits s.config.maxBodyBytes r := by
    rw [dispatch, hroute]
    exact if_pos hmethod
  have hlimited : s.limited r = s.admitted e r := by
    rw [limited, admitted, Http.guardLength, Http.guardLength, hdispatch]
  have hshared :
      s.shared r = ((s.admitted e r).1.adding s.sharing,
        (s.admitted e r).2) := by
    rw [shared, Endpoint.not_question hmethod, hlimited, sharing]
    cases s.config.cors with
    | true => rfl
    | false => simp [Response.adding]
  rw [answer, hshared, hroute]
  simp only [complete, if_pos hmethod]

end Site

-- ============================================================== lengths

/-- Whether a service reads the body of a request as a whole. -/
def Site.takes (s : Site) (r : Http.Request) : Prop :=
  r.declaresTooMuch s.config.maxBodyBytes = false ∧
    r.body.length ≤ r.readable s.config.maxBodyBytes

/-- What an endpoint that checks patterns answers, by the length of the
request. -/
theorem Site.admitted_of_check (s : Site) {e : Endpoint} (he : e ≠ .health)
    (r : Http.Request) :
    (s.takes r ∧ s.admitted e r = checkAnswer s.config.limits e.path r.body)
      ∨ (¬ s.takes r ∧ (s.admitted e r).1.status = 413
      ∧ (s.admitted e r).2 = []) := by
  rw [admitted, Http.guardLength, takes]
  cases hdeclared : r.declaresTooMuch s.config.maxBodyBytes with
  | true => exact .inr ⟨fun h => absurd h.1 (by decide), rfl, rfl⟩
  | false =>
      rw [if_neg (by decide)]
      by_cases hlength : r.body.length ≤ r.readable s.config.maxBodyBytes
      · rw [Endpoint.answer_of_within he hlength]
        exact .inl ⟨⟨rfl, hlength⟩, rfl⟩
      · rw [Endpoint.answer_of_beyond he hlength]
        exact .inr ⟨fun h => hlength h.2, rfl, rfl⟩

/-- A check is answered if the body is read as a whole. -/
theorem Site.status_of_check (s : Site) {e : Endpoint} (he : e ≠ .health)
    {r : Http.Request} (hpath : r.target.path = e.path)
    (hmethod : r.method ∈ e.methods) (htakes : s.takes r) :
    (s.answer r).1.status = 200 := by
  rw [s.answer_of_endpoint hpath hmethod]
  rcases s.admitted_of_check he r with ⟨-, hadmitted⟩ | ⟨hnot, -, -⟩
  · rw [hadmitted]
    simp only [Http.Response.toMethod_status, Http.Response.measured_status,
      Http.Response.adding_status]
    rfl
  · exact absurd htakes hnot

end PatternCheck.Service
