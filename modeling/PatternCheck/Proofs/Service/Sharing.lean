import PatternCheck.Proofs.Service.Passage
import PatternCheck.Proofs.Service.Statuses

/-
What the leave for pages from elsewhere changes. Some headers are about
nothing but this leave (`CrossOrigin.isLeave`). A service sends none of
them by itself, and where it gives the leave, taking them out of its answer
gives the answer without the leave, in every part (`through_withoutLeave`).
Only questions whether a request would be allowed are answered in another
way, and at once.
-/

namespace PatternCheck

namespace Http

-- ================================================================= headers

namespace CrossOrigin

/-- Whether a header says what pages from elsewhere may do. -/
def isControl (name : String) : Bool :=
  "access-control-".toList.isPrefixOf (Headers.fold name).toList

/-- Whether a header has to do with pages from elsewhere alone. -/
def isLeave (name : String) : Bool :=
  Headers.fold name == "vary" || isControl name

theorem isControl_of_isLeave {name : String} (h : isLeave name = false) :
    isControl name = false := by
  unfold isLeave at h
  rw [Bool.or_eq_false_iff] at h
  exact h.2

/-- The case of letters does not matter. -/
theorem isLeave_of_fold {name n : String}
    (h : Headers.fold n = Headers.fold name) : isLeave n = isLeave name := by
  unfold isLeave isControl
  rw [h]

/-- The names of the headers that the parts of a service set. -/
def ownNames : List String :=
  ["allow", "content-type", "content-length", "content-range", "accept-ranges",
    "last-modified", "location"]

theorem ownNames_fold :
    ownNames.all (fun name => Headers.fold name == name && !isLeave name)
      = true := by
  decide +kernel

theorem leave_fold :
    leave.all (fun h => Headers.fold h.1 == h.1 && isLeave h.1) = true := by
  decide +kernel

variable {name : String}

/-- A name that a part of a service sets is in small letters, and has nothing
to do with pages from elsewhere. -/
theorem own_of_mem (h : name ∈ ownNames) :
    Headers.fold name = name ∧ isLeave name = false := by
  have own := List.all_eq_true.1 ownNames_fold name h
  rwa [Bool.and_eq_true, beq_iff_eq, Bool.not_eq_true'] at own

/-- Nor has the same name in any other case. -/
theorem isLeave_of_mem_ownNames (h : name ∈ ownNames) {n : String}
    (hn : Headers.fold n = name) : isLeave n = false := by
  rw [isLeave_of_fold (hn.trans (own_of_mem h).1.symm), (own_of_mem h).2]

/-- What is added with the leave has to do with such pages alone. -/
theorem leave_of_mem {h : String × String} (hh : h ∈ leave) :
    Headers.fold h.1 = h.1 ∧ isLeave h.1 = true := by
  have leave := List.all_eq_true.1 leave_fold h hh
  rwa [Bool.and_eq_true, beq_iff_eq] at leave

theorem isLeave_of_mem_leave {h : String × String} (hh : h ∈ leave)
    {n : String} (hn : Headers.fold n = h.1) : isLeave n = true := by
  rw [isLeave_of_fold (hn.trans (leave_of_mem hh).1.symm), (leave_of_mem hh).2]

/-- No header that a part of a service sets has to do with pages from
elsewhere. -/
theorem all_own {names : List String} (h : names ⊆ ownNames) :
    names.all (fun name => !isLeave name) = true := by
  rw [List.all_eq_true]
  intro name hname
  rw [(own_of_mem (h hname)).2]
  rfl

end CrossOrigin

namespace Response

open CrossOrigin (isLeave own_of_mem isLeave_of_mem_ownNames)

variable (r : Response)

/-- Whether no header of a response has to do with pages from elsewhere. -/
def isOwn : Bool := (r.headers.map (·.1)).all fun name => !isLeave name

/-- A response without the headers that have to do with pages from
elsewhere. -/
def withoutLeave : Response :=
  { r with headers := r.headers.filter fun h => !isLeave h.1 }

theorem isOwn_iff : r.isOwn = true ↔ ∀ h ∈ r.headers, isLeave h.1 = false := by
  simp [isOwn]

/-- Where there is nothing of the kind, nothing is taken out. -/
theorem withoutLeave_of_isOwn (h : r.isOwn = true) : r.withoutLeave = r := by
  have keep : r.headers.filter (fun h => !isLeave h.1) = r.headers := by
    rw [List.filter_eq_self]
    intro x hx
    rw [r.isOwn_iff.1 h x hx]
    rfl
  unfold withoutLeave
  rw [keep]

/-- Headers are taken out of what was there, and of what is added. -/
theorem withoutLeave_adding (hs : Headers) :
    (r.adding hs).withoutLeave
      = r.withoutLeave.adding (hs.filter fun h => !isLeave h.1) := by
  unfold withoutLeave adding
  rw [List.filter_append]

/-- Headers that are not taken out are found as before. -/
theorem get?_withoutLeave {name : String}
    (h : ∀ n, Headers.fold n = name → isLeave n = false) :
    r.withoutLeave.headers.get? name = r.headers.get? name := by
  unfold withoutLeave Headers.get?
  rw [List.find?_filter]
  congr 2
  funext x
  by_cases hname : Headers.fold x.1 = name
  · simp [hname, h x.1 hname]
  · simp [hname]

/-- What is said first about a name counts, whatever is added. -/
theorem get?_adding {name value : String} (hs : Headers)
    (h : r.headers.get? name = some value) :
    (r.adding hs).headers.get? name = some value := by
  unfold Headers.get? at h ⊢
  rw [adding_headers, List.find?_append]
  obtain ⟨x, hx, hvalue⟩ := Option.map_eq_some_iff.1 h
  rw [hx]
  exact congrArg some hvalue

theorem get?_measured {name value : String}
    (h : r.headers.get? name = some value) :
    r.measured.headers.get? name = some value := by
  unfold measured
  split
  · exact h
  · exact r.get?_adding _ h

/-- A response that has nothing to do with pages from elsewhere says nothing
about them. -/
theorem get?_of_isOwn (h : r.isOwn = true) {name : String}
    (hname : ∀ n, Headers.fold n = name → isLeave n = true) :
    r.headers.get? name = none := by
  unfold Headers.get?
  rw [Option.map_eq_none_iff, List.find?_eq_none]
  intro x hx hfold
  have hleave := hname x.1 (eq_of_beq hfold)
  rw [r.isOwn_iff.1 h x hx] at hleave
  cases hleave

/-- The length of a body is said with the leave and without. -/
theorem withoutLeave_measured :
    r.measured.withoutLeave = r.withoutLeave.measured := by
  have hlength : ∀ n, Headers.fold n = "content-length" → isLeave n = false :=
    fun n => isLeave_of_mem_ownNames (by simp [CrossOrigin.ownNames])
  have hname : isLeave "content-length" = false :=
    (own_of_mem (by simp [CrossOrigin.ownNames])).2
  unfold measured
  rw [r.get?_withoutLeave hlength]
  split
  · rfl
  · rw [withoutLeave_adding]
    simp [hname, withoutLeave]

theorem withoutLeave_toMethod (method : String) :
    (r.toMethod method).withoutLeave = r.withoutLeave.toMethod method := by
  unfold toMethod
  split <;> rfl

end Response

/-- No answer of a directory of files has to do with pages from elsewhere. -/
theorem assetAnswer_isOwn (root : Option Files) (r : Request) :
    (assetAnswer root r).isOwn = true := by
  have hconditional {f : File} {hs : Headers} {response : Response}
      (h : conditional? f hs = some response) : response.isOwn = true := by
    unfold conditional? at h
    dsimp only at h
    split at h
    · cases h
      rfl
    · split at h
      · cases h
        rfl
      · cases h
  have hpart (f : File) (type changed : String)
    (ranges : Option (List ByteRange)) :
      (partAnswer f [("content-type", type), ("accept-ranges", "bytes"),
        ("last-modified", changed)] ranges).isOwn = true := by
    unfold partAnswer
    dsimp only
    split
    · show ["content-type", "accept-ranges", "last-modified",
        "content-range"].all _ = true
      exact CrossOrigin.all_own (by simp [CrossOrigin.ownNames])
    · show ["content-type", "accept-ranges", "last-modified", "content-range",
        "content-length"].all _ = true
      exact CrossOrigin.all_own (by simp [CrossOrigin.ownNames])
    · show ["content-type", "accept-ranges", "last-modified",
        "content-range"].all _ = true
      exact CrossOrigin.all_own (by simp [CrossOrigin.ownNames])
  unfold assetAnswer
  split
  · unfold Asset.answer
    split
    · unfold fileAnswer
      split
      · next h => exact hconditional h
      · dsimp only
        split
        · exact hpart _ _ _ _
        · show ["content-type", "accept-ranges", "last-modified",
            "content-length"].all _ = true
          exact CrossOrigin.all_own (by simp [CrossOrigin.ownNames])
    · show ["location"].all _ = true
      exact CrossOrigin.all_own (by simp [CrossOrigin.ownNames])
    · rfl
  · show ["allow"].all _ = true
    exact CrossOrigin.all_own (by simp [CrossOrigin.ownNames])

end Http

namespace Service

open Http (Response)
open Http.CrossOrigin (isLeave isControl)

namespace Site

variable {s : Site} {r : Http.Request}

/-- No answer from behind the layers has to do with pages from
elsewhere. -/
theorem dispatch_isOwn : (s.dispatch r).1.isOwn = true := by
  have htext : ["content-type"].all (fun name => !isLeave name) = true :=
    Http.CrossOrigin.all_own (by simp [Http.CrossOrigin.ownNames])
  unfold dispatch
  cases Endpoint.ofPath? r.target.path with
  | none =>
      show (s.otherwise r).isOwn = true
      unfold otherwise
      split
      · exact Http.assetAnswer_isOwn s.assets r
      · rfl
  | some e =>
      by_cases hallowed : r.method ∈ e.methods
      · simp only [if_pos hallowed]
        cases e with
        | health => exact htext
        | validate | parseTree | railroad =>
            unfold Endpoint.answer
            cases r.bodyWithin? s.config.maxBodyBytes <;> exact htext
      · simp only [if_neg hallowed]
        rfl

/-- A request by the method of questions is refused by whatever stands
behind the layers. -/
theorem dispatch_of_options (h : r.method = "OPTIONS") :
    (s.dispatch r).1.status ∈ [404, 405] ∧ (s.dispatch r).2 = [] := by
  refine ⟨?_, dispatch_silent fun hcheck => ?_⟩
  · unfold dispatch
    cases Endpoint.ofPath? r.target.path with
    | none =>
        show (s.otherwise r).status ∈ _
        unfold otherwise
        split
        · unfold Http.assetAnswer
          rw [h]
          exact List.mem_cons_of_mem _ (List.mem_singleton_self _)
        · exact List.mem_cons_self
    | some e =>
        have hallowed : r.method ∉ e.methods := by
          rw [h]
          cases e <;> decide
        simp only [if_neg hallowed]
        decide
  · rw [h] at hcheck
    exact absurd hcheck.2 (by decide)

end Site

-- ================================================================= layers

namespace Passage

variable (p : Passage)

/-- So is what the answers of an endpoint say. -/
theorem completed_withoutLeave (r : Response) :
    (p.completed r).withoutLeave = p.completed r.withoutLeave := by
  have hallow : isLeave "allow" = false :=
    (Http.CrossOrigin.own_of_mem (by simp [Http.CrossOrigin.ownNames])).2
  unfold completed
  cases p.methods with
  | none => rfl
  | some ms =>
      show (Response.measured _).withoutLeave = Response.measured _
      rw [Response.withoutLeave_measured]
      split
      · rfl
      · rw [Response.withoutLeave_adding]
        simp [hallow]

/-- What an answer says already counts. -/
theorem completed_get? {r : Response} {name value : String}
    (h : r.headers.get? name = some value) :
    (p.completed r).headers.get? name = some value := by
  unfold completed
  cases p.methods with
  | none => exact h
  | some ms =>
      show (Response.measured _).headers.get? name = _
      apply Response.get?_measured
      split
      · exact h
      · exact Response.get?_adding _ _ h

/-- An answer about the length of a body has nothing to do with such pages. -/
theorem limited_isOwn {a : Site.Answer} (own : a.1.isOwn = true) :
    (p.limited a).1.isOwn = true := by
  unfold limited
  split
  · show ["content-type"].all _ = true
    exact Http.CrossOrigin.all_own (by simp [Http.CrossOrigin.ownNames])
  · exact own

/-- The same passage, with leave or without. -/
def withCors (cors : Bool) : Passage := { p with cors }

theorem shared_withCors (a : Site.Answer) (hmethod : p.method ≠ "OPTIONS") :
    (p.withCors true).shared a
      = ((p.limited a).1.adding Http.CrossOrigin.leave, (p.limited a).2) :=
  (p.withCors true).shared_of_not_question a fun h => hmethod h.2

/-- An answer with leave is the answer without it, with headers added that
have to do with pages from elsewhere alone. -/
theorem through_withoutLeave {a : Site.Answer} (own : a.1.isOwn = true)
    (hmethod : p.method ≠ "OPTIONS") :
    ((p.withCors true).through a).1.withoutLeave
      = ((p.withCors false).through a).1
      ∧ ((p.withCors true).through a).2
        = ((p.withCors false).through a).2 := by
  have hleave :
      Http.CrossOrigin.leave.filter (fun h => !isLeave h.1) = [] := by
    rw [List.filter_eq_nil_iff]
    intro h hh
    rw [(Http.CrossOrigin.leave_of_mem hh).2]
    decide
  have hshared :
      ((p.withCors true).shared a).1.withoutLeave = (p.limited a).1 := by
    rw [p.shared_withCors a hmethod, Response.withoutLeave_adding, hleave,
      Response.withoutLeave_of_isOwn _ (p.limited_isOwn own)]
    simp [Response.adding]
  constructor
  · show (Response.toMethod _ _).withoutLeave = Response.toMethod _ _
    rw [Response.withoutLeave_toMethod, completed_withoutLeave, hshared]
    rfl
  · rw [through_events, through_events, p.shared_withCors a hmethod]
    rfl

/-- An answer without leave has nothing to do with pages from elsewhere. -/
theorem through_isOwn {a : Site.Answer} (own : a.1.isOwn = true) :
    ((p.withCors false).through a).1.withoutLeave
      = ((p.withCors false).through a).1 := by
  show (Response.toMethod _ _).withoutLeave = Response.toMethod _ _
  rw [Response.withoutLeave_toMethod, completed_withoutLeave]
  show Response.toMethod (completed _ (p.limited a).1.withoutLeave) _ = _
  rw [Response.withoutLeave_of_isOwn _ (p.limited_isOwn own)]
  rfl

/-- With leave, anyone may read an answer. -/
theorem through_anyOrigin {a : Site.Answer} (own : a.1.isOwn = true) :
    ((p.withCors true).through a).1.headers.get? "access-control-allow-origin"
      = some "*" := by
  have hname :
      ∀ n, Http.Headers.fold n = "access-control-allow-origin" →
        isLeave n = true :=
    fun n => Http.CrossOrigin.isLeave_of_mem_leave
      (show Http.CrossOrigin.anyOrigin ∈ Http.CrossOrigin.leave by
      simp [Http.CrossOrigin.leave])
  show (Response.toMethod _ _).headers.get? _ = _
  rw [Response.toMethod_headers]
  apply completed_get?
  by_cases hmethod : p.method = "OPTIONS"
  · rw [(p.withCors true).shared_of_question a rfl hmethod]
    decide +kernel
  · have hnone := (p.limited a).1.get?_of_isOwn (p.limited_isOwn own) hname
    rw [p.shared_withCors a hmethod]
    unfold Http.Headers.get? at hnone ⊢
    rw [Response.adding_headers, List.find?_append,
      Option.map_eq_none_iff.1 hnone]
    decide +kernel

end Passage

-- ================================================================= answers

/-- The same service, with leave for pages from elsewhere or without. -/
def Site.withCors (s : Site) (cors : Bool) : Site :=
  { s with config := { s.config with cors } }

/-- Leave for pages from elsewhere only adds headers. A request that is not
the question whether another one would be allowed has the same answer with
leave and without, but for headers that have to do with such pages alone;
without leave there are none of these. The question itself is answered at
once where there is leave, and refused where there is none. -/
theorem answer_cors (s : Site) (r : Http.Request) :
    let shared := (s.withCors true).answer r
    let plain := (s.withCors false).answer r
    (r.method ≠ "OPTIONS" →
        shared.1.status = plain.1.status ∧ shared.1.body = plain.1.body
          ∧ shared.2 = plain.2
          ∧ shared.1.headers.filter (fun h => !isLeave h.1) = plain.1.headers)
      ∧ shared.1.headers.get? "access-control-allow-origin" = some "*"
      ∧ (∀ h ∈ plain.1.headers, isControl h.1 = false)
      ∧ (r.method = "OPTIONS" →
        (shared.1.status = 200 ∧ shared.1.body = [] ∧ shared.2 = [])
          ∧ plain.1.status ∈ [404, 405, 413] ∧ plain.2 = []) := by
  intro shared plain
  have own := Site.dispatch_isOwn (s := s) (r := r)
  have hshared :
      shared = ((s.passage r).withCors true).through (s.dispatch r) :=
    (s.withCors true).answer_eq_through r
  have hplain :
      plain = ((s.passage r).withCors false).through (s.dispatch r) :=
    (s.withCors false).answer_eq_through r
  rw [hshared, hplain]
  refine ⟨fun hmethod => ?_, (s.passage r).through_anyOrigin own, ?_,
    fun hmethod => ⟨?_, ?_⟩⟩
  · obtain ⟨hresponse, hevents⟩ :=
      (s.passage r).through_withoutLeave own hmethod
    rw [← hresponse]
    exact ⟨rfl, rfl, hevents, rfl⟩
  · intro h hh
    rw [← (s.passage r).through_isOwn own] at hh
    have hkeep := (List.mem_filter.1 hh).2
    exact Http.CrossOrigin.isControl_of_isLeave (by simpa using hkeep)
  · have hquestion :=
      ((s.passage r).withCors true).shared_of_question (s.dispatch r)
        rfl hmethod
    refine ⟨?_, Passage.through_body_of_shared _ _ (by rw [hquestion]; rfl),
      ?_⟩
    · rw [Passage.through_status, if_pos ⟨rfl, hmethod⟩]
    · rw [Passage.through_events, hquestion]
      rfl
  · obtain ⟨hstatus, hevents⟩ := Site.dispatch_of_options (s := s) hmethod
    constructor
    · rw [Passage.through_status, if_neg fun h => Bool.false_ne_true h.1]
      split
      · decide
      · simp only [List.mem_cons, List.not_mem_nil, or_false] at hstatus ⊢
        omega
    · rcases ((s.passage r).withCors false).through_events_eq
        (s.dispatch r) with h | h
      · rw [h, hevents]
      · exact h

/-- The way to a directory may be read from elsewhere, where there is leave;
and a question about it has an answer then. -/
theorem answer_cors_redirect :
    let s : Site :=
      { config :=
          { Server.Config.standard .debug with staticDir := some "site" }
        assets := some ⟨[(["js", "app.js"], ⟨[0x41], 0⟩)]⟩ }
    let r : Http.Request := { target := { path := "/js" } }
    let shared := (s.withCors true).answer r
    shared.1.status = 307
      ∧ shared.1.headers.filter (fun h => !isLeave h.1)
        = [("location", "/js/")]
      ∧ shared.1.headers.get? "access-control-allow-origin" = some "*"
      ∧ ((s.withCors true).answer { r with method := "OPTIONS" }).1.status
        = 200
      ∧ ((s.withCors false).answer { r with method := "OPTIONS" }).2 = [] := by
  intro s r shared
  obtain ⟨hplain, horigin, -, -⟩ := answer_cors s r
  obtain ⟨hstatus, -, -, hheaders⟩ :=
    hplain (show ¬ "GET" = "OPTIONS" by decide)
  obtain ⟨-, -, -, hquestion⟩ := answer_cors s { r with method := "OPTIONS" }
  obtain ⟨hwith, hwithout⟩ := hquestion rfl
  exact ⟨hstatus.trans (by decide +kernel), hheaders.trans (by decide +kernel),
    horigin, hwith.1, hwithout.2⟩

end Service

end PatternCheck
