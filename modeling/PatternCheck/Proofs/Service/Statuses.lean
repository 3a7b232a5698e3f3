import PatternCheck.Proofs.Service.Verdicts

/-
The status of every answer of a service that has no assets and gives no
leave to pages from elsewhere. Four things decide it, in this order: the
length that the request declares, its path, its method, and the length that
its body turns out to have (`status_decided`). Nothing is logged of a
request unless its pattern is checked, and nothing of a request counts
beside these four.
-/

namespace PatternCheck.Service

open Http (Response)
open Log (Event)

-- ================================================================= paths

/-- The paths of the endpoints that check patterns. -/
def checkPaths : List String :=
  ["/api/validate", "/api/parse-tree", "/api/railroad"]

/-- The path of the endpoint that says that the service is there. -/
def healthPath : String := "/health"

namespace Endpoint

/-- Each endpoint has one path. -/
theorem path_of_ofPath? {path : String} {e : Endpoint}
    (h : ofPath? path = some e) : e.path = path := by
  have hfound := List.find?_some h
  exact eq_of_beq hfound

theorem ofPath?_eq_none {path : String} (hchecks : path ∉ checkPaths)
    (hhealth : path ≠ healthPath) : ofPath? path = none := by
  cases hroute : ofPath? path with
  | none => rfl
  | some e =>
      have hpath := path_of_ofPath? hroute
      subst hpath
      cases e with
      | health => exact absurd rfl hhealth
      | validate | parseTree | railroad => exact absurd (by decide) hchecks

/-- A path that checks patterns is that of an endpoint other than the one
for health, and the only method for it is `POST`. -/
theorem of_mem_checkPaths {path : String} (h : path ∈ checkPaths) :
    ∃ e : Endpoint, e ≠ .health ∧ e.path = path ∧ e.methods = ["POST"] := by
  simp only [checkPaths, List.mem_cons, List.not_mem_nil, or_false] at h
  rcases h with rfl | rfl | rfl
  · exact ⟨.validate, by decide, rfl, rfl⟩
  · exact ⟨.parseTree, by decide, rfl, rfl⟩
  · exact ⟨.railroad, by decide, rfl, rfl⟩

end Endpoint

-- =============================================================== answers

namespace Site

variable (s : Site) (r : Http.Request)

/-- What is said of a response at last leaves its status as it is, and
nothing more is logged. -/
theorem answer_status : (s.answer r).1.status = (s.shared r).1.status := by
  rw [answer]
  simp only [Response.toMethod_status]
  split
  · rw [complete, Response.measured_status]
    split <;> rfl
  · rfl

theorem answer_events : (s.answer r).2 = (s.shared r).2 := rfl

/-- Without leave for pages from elsewhere there is no answer but the one
behind it. -/
theorem shared_of_cors_off (h : s.config.cors = false) :
    s.shared r = s.limited r := by
  rw [shared, h]
  rfl

/-- A request that declares too long a body is refused, whatever else it
says. -/
theorem limited_of_declared
    (h : r.declaresTooMuch s.config.maxBodyBytes = true) :
    s.limited r = quiet .declaredTooLong := by
  rw [limited, Http.guardLength, if_pos h]

theorem limited_of_not_declared
    (h : r.declaresTooMuch s.config.maxBodyBytes = false) :
    s.limited r = s.dispatch r := by
  rw [limited, Http.guardLength, h]
  rfl

/-- Without assets there is nothing at any other path. -/
theorem dispatch_of_unknown (hassets : s.config.staticDir = none)
    (h : Endpoint.ofPath? r.target.path = none) :
    s.dispatch r = quiet { status := 404 } := by
  rw [dispatch, h, otherwise, hassets]
  rfl

/-- An endpoint has its methods. -/
theorem dispatch_of_not_allowed {e : Endpoint} (hpath : e.path = r.target.path)
    (h : r.method ∉ e.methods) : s.dispatch r = quiet { status := 405 } := by
  rw [dispatch, ← hpath, Endpoint.ofPath?_path]
  exact if_neg h

/-- By one of these it answers. -/
theorem dispatch_of_allowed {e : Endpoint} (hpath : e.path = r.target.path)
    (h : r.method ∈ e.methods) :
    s.dispatch r = e.answer s.config.limits s.config.maxBodyBytes r := by
  rw [dispatch, ← hpath, Endpoint.ofPath?_path]
  exact if_pos h

end Site

-- =============================================================== lengths

/-- A length that cannot be read is none. -/
theorem declaresTooMuch_iff {r : Http.Request} {limit : Nat} :
    r.declaresTooMuch limit = true ↔
      ∃ c ∈ r.headers.declaredLength?, limit < c := by
  rw [Http.Request.declaresTooMuch, Option.any_eq_true]
  simp

/-- Whether an event says that a pattern was checked. -/
def IsChecked (e : Event) : Prop := e.message = "pattern checked"

/-- A check is logged as one. -/
theorem checkAnswer_isChecked (l : Pattern.Limits) (route : String)
    (bytes : List UInt8) :
    ∃ e ∈ (checkAnswer l route bytes).2, IsChecked e := by
  have hcheck := checkAnswer_eq l route bytes
  dsimp only at hcheck
  rw [hcheck]
  exact ⟨_, List.mem_append_right _ (List.mem_singleton_self _), rfl⟩

-- ================================================================= checks

namespace Site

variable {s : Site} {r : Http.Request}

/-- The answer to a check that declares no length beyond the limit. -/
theorem dispatch_of_check (hpath : r.target.path ∈ checkPaths)
    (hmethod : r.method = "POST") :
    (r.body.length ≤ r.readable s.config.maxBodyBytes →
        (s.dispatch r).1.status = 200 ∧ ∃ e ∈ (s.dispatch r).2, IsChecked e)
      ∧ (¬ r.body.length ≤ r.readable s.config.maxBodyBytes →
        s.dispatch r = quiet .foundTooLong) := by
  obtain ⟨e, he, hroute, hmethods⟩ := Endpoint.of_mem_checkPaths hpath
  have hallowed : r.method ∈ e.methods := by
    rw [hmethods, hmethod]
    exact List.mem_singleton_self _
  rw [s.dispatch_of_allowed r hroute hallowed]
  constructor
  · intro hlength
    rw [Endpoint.answer_of_within he hlength]
    exact ⟨rfl, checkAnswer_isChecked _ _ _⟩
  · intro hlength
    exact Endpoint.answer_of_beyond he hlength

/-- Only of checks is anything logged. -/
theorem dispatch_silent
    (h : ¬ (r.target.path ∈ checkPaths ∧ r.method = "POST")) :
    (s.dispatch r).2 = [] := by
  rw [dispatch]
  cases hroute : Endpoint.ofPath? r.target.path with
  | none => rfl
  | some e =>
      have hpath := Endpoint.path_of_ofPath? hroute
      by_cases hmethod : r.method ∈ e.methods
      · cases e with
        | health =>
            simp only [if_pos hmethod]
            rfl
        | validate | parseTree | railroad =>
            refine absurd ⟨?_, List.mem_singleton.1 hmethod⟩ h
            rw [← hpath]
            decide
      · simp only [if_neg hmethod]
        rfl

/-- The endpoint for health answers whatever the body. -/
theorem dispatch_of_health (hpath : r.target.path = healthPath)
    (hmethod : r.method = "GET" ∨ r.method = "HEAD") :
    s.dispatch r = quiet (documentResponse healthDocument) := by
  refine s.dispatch_of_allowed r (e := .health) hpath.symm ?_
  rw [Endpoint.methods]
  simpa using hmethod

/-- An answer is logged as a check just if it is the answer to one. -/
theorem dispatch_isChecked_iff :
    (∃ e ∈ (s.dispatch r).2, IsChecked e)
      ↔ r.target.path ∈ checkPaths ∧ r.method = "POST"
        ∧ (s.dispatch r).1.status = 200 := by
  by_cases hcheck : r.target.path ∈ checkPaths ∧ r.method = "POST"
  · obtain ⟨hread, hlong⟩ := dispatch_of_check (s := s) hcheck.1 hcheck.2
    by_cases hlength : r.body.length ≤ r.readable s.config.maxBodyBytes
    · obtain ⟨hstatus, hevent⟩ := hread hlength
      exact ⟨fun _ => ⟨hcheck.1, hcheck.2, hstatus⟩, fun _ => hevent⟩
    · rw [hlong hlength]
      constructor
      · rintro ⟨e, he, -⟩
        cases he
      · rintro ⟨-, -, hstatus⟩
        cases hstatus
  · rw [dispatch_silent hcheck]
    constructor
    · rintro ⟨e, he, -⟩
      cases he
    · rintro ⟨hpath, hmethod, -⟩
      exact absurd ⟨hpath, hmethod⟩ hcheck

/-- What a query asks for is not looked at where there are no assets. -/
theorem answer_query (hcors : s.config.cors = false)
    (hassets : s.config.staticDir = none) (query : Option String) :
    s.answer { r with target := { r.target with query } } = s.answer r := by
  have hdispatch :
      s.dispatch { r with target := { r.target with query } }
        = s.dispatch r := by
    rw [dispatch, dispatch]
    cases Endpoint.ofPath? r.target.path with
    | none =>
        rw [otherwise, otherwise, hassets]
        rfl
    | some e => cases e <;> rfl
  have hlimited :
      s.limited { r with target := { r.target with query } }
        = s.limited r := by
    rw [limited, limited, Http.guardLength, Http.guardLength, hdispatch]
    rfl
  rw [answer, answer, s.shared_of_cors_off _ hcors,
    s.shared_of_cors_off _ hcors, hlimited]
  rfl

end Site

-- ============================================================== statuses

/-- The status of every answer of a service without assets and without
leave for pages from elsewhere, with the one event that tells a check that
is answered. -/
theorem status_decided (s : Site) (r : Http.Request)
    (hcors : s.config.cors = false) (hassets : s.config.staticDir = none) :
    let limit := s.config.maxBodyBytes
    let declared := r.headers.declaredLength?
    let path := r.target.path
    let status := (s.answer r).1.status
    ((∃ c ∈ declared, limit < c) → status = 413)
      ∧ ((∀ c ∈ declared, c ≤ limit) →
        (path ∉ checkPaths → path ≠ healthPath → status = 404)
        ∧ (path ∈ checkPaths → r.method ≠ "POST" → status = 405)
        ∧ (path = healthPath → r.method ≠ "GET" → r.method ≠ "HEAD" →
          status = 405)
        ∧ (path = healthPath → r.method = "GET" ∨ r.method = "HEAD" →
          status = 200)
        ∧ (path ∈ checkPaths → r.method = "POST" →
          ((declared.map (min limit)).getD limit < r.body.length →
            status = 413)
          ∧ (r.body.length ≤ (declared.map (min limit)).getD limit →
            status = 200)))
      ∧ (∀ query, s.answer { r with target := { r.target with query } }
        = s.answer r)
      ∧ ((∃ e ∈ (s.answer r).2, IsChecked e)
        ↔ path ∈ checkPaths ∧ r.method = "POST" ∧ status = 200) := by
  intro limit declared path status
  have hanswer : status = (s.limited r).1.status := by
    rw [← s.shared_of_cors_off r hcors]
    exact s.answer_status r
  have hevents : (s.answer r).2 = (s.limited r).2 := by
    rw [← s.shared_of_cors_off r hcors]
    exact s.answer_events r
  have hwithin (h : ∀ c ∈ declared, c ≤ limit) :
      s.limited r = s.dispatch r := by
    refine s.limited_of_not_declared r (Bool.eq_false_iff.2 fun htrue => ?_)
    obtain ⟨c, hc, hlarge⟩ := declaresTooMuch_iff.1 htrue
    exact absurd (h c hc) (by omega)
  have hbeyond (h : ∃ c ∈ declared, limit < c) :
      s.limited r = Site.quiet .declaredTooLong :=
    s.limited_of_declared r (declaresTooMuch_iff.2 h)
  refine ⟨fun h => ?_,
    fun h => ⟨fun hchecks hhealth => ?_, fun hcheck hmethod => ?_,
      fun hhealth hget hhead => ?_, fun hhealth hmethod => ?_,
      fun hcheck hmethod => ?_⟩,
    fun query => Site.answer_query hcors hassets query, ?_⟩
  · rw [hanswer, hbeyond h]
    rfl
  · rw [hanswer, hwithin h,
      s.dispatch_of_unknown r hassets
      (Endpoint.ofPath?_eq_none hchecks hhealth)]
    rfl
  · obtain ⟨e, -, hroute, hmethods⟩ := Endpoint.of_mem_checkPaths hcheck
    rw [hanswer, hwithin h,
      s.dispatch_of_not_allowed r hroute (by simp [hmethods, hmethod])]
    rfl
  · have hmethods : r.method ∉ Endpoint.health.methods := by
      simp [Endpoint.methods, hget, hhead]
    rw [hanswer, hwithin h,
      s.dispatch_of_not_allowed r (e := .health) hhealth.symm hmethods]
    rfl
  · rw [hanswer, hwithin h, Site.dispatch_of_health hhealth hmethod]
    rfl
  · obtain ⟨hread, hlong⟩ := Site.dispatch_of_check (s := s) hcheck hmethod
    rw [hanswer, hwithin h]
    constructor
    · intro hlength
      rw [hlong (Nat.not_le_of_lt hlength)]
      rfl
    · intro hlength
      exact (hread hlength).1
  · rw [hevents, hanswer]
    by_cases hdeclared : ∃ c ∈ declared, limit < c
    · rw [hbeyond hdeclared]
      constructor
      · rintro ⟨e, he, -⟩
        cases he
      · rintro ⟨-, -, hstatus⟩
        cases hstatus
    · rw [hwithin fun c hc => Nat.le_of_not_lt fun hlarge =>
        hdeclared ⟨c, hc, hlarge⟩]
      exact Site.dispatch_isChecked_iff

/-- A body as long as it may be is read, and one that is longer than was
said is not. -/
theorem status_decided_boundary :
    let s : Site :=
      { config := { Server.Config.standard .debug with maxBodyBytes := 4 } }
    let r : Http.Request :=
      { method := "POST"
        target := { path := "/api/railroad", query := some "x" }
        body := Text.Utf8.encode "null".toList }
    (s.answer r).1.status = 200
      ∧ (s.answer { r with headers := [("Content-Length", "+3")] }).1.status
        = 413
      ∧ (s.answer { r with
          headers := [("Content-Length", "5")], method := "GET" }).1.status
        = 413
      ∧ (s.answer { r with
          headers := [("Content-Length", "4.")], method := "GET" }).1.status
        = 405 := by
  intro s r
  have hpath : r.target.path ∈ checkPaths := by decide
  have hnone : r.headers.declaredLength? = none := by decide +kernel
  have hthree :
      Http.Headers.declaredLength? [("Content-Length", "+3")] = some 3 := by
    decide +kernel
  have hfive :
      Http.Headers.declaredLength? [("Content-Length", "5")] = some 5 := by
    decide +kernel
  have hfour :
      Http.Headers.declaredLength? [("Content-Length", "4.")] = none := by
    decide +kernel
  refine ⟨?_, ?_, ?_, ?_⟩
  · obtain ⟨-, hrest, -⟩ := status_decided s r rfl rfl
    obtain ⟨-, -, -, -, hcheck⟩ := hrest (by simp [hnone])
    exact (hcheck hpath rfl).2 (by rw [hnone]; decide)
  · obtain ⟨-, hrest, -⟩ :=
      status_decided s { r with headers := [("Content-Length", "+3")] } rfl rfl
    obtain ⟨-, -, -, -, hcheck⟩ := hrest (by simp [hthree, s])
    exact (hcheck hpath rfl).1 (by rw [hthree]; decide)
  · obtain ⟨hdeclared, -⟩ :=
      status_decided s { r with
        headers := [("Content-Length", "5")], method := "GET" } rfl rfl
    exact hdeclared ⟨5, hfive, by decide⟩
  · obtain ⟨-, hrest, -⟩ :=
      status_decided s { r with
        headers := [("Content-Length", "4.")], method := "GET" } rfl rfl
    obtain ⟨-, hmethod, -⟩ := hrest (by simp [hfour])
    exact hmethod hpath (by decide)

end PatternCheck.Service
