import PatternCheck.Proofs.Service.Passage
import PatternCheck.Proofs.Service.Statuses

/-
What the answer to a request for an endpoint does not depend on. The three
endpoints that check patterns cannot be told apart: their answers agree for
every request, and what is logged differs in the name of the route alone
(`answer_route`). The directory of assets has no part in any answer of an
endpoint, not even where it holds a file at the very path
(`answer_assets`).

Both compare two runs. The layers in front of the endpoints treat the two
alike because they agree in their passage, so it is enough to compare what
stands behind the layers.
-/

namespace PatternCheck.Service

open Http (Response)
open Log (Event FieldValue)
open Pattern (Limits)

-- ================================================================ requests

/-- The same request for another path. -/
def toPath (r : Http.Request) (path : String) : Http.Request :=
  { r with target := { r.target with path } }

instance (e : Event) : Decidable (IsChecked e) :=
  inferInstanceAs (Decidable (e.message = "pattern checked"))

/-- A field with another route in it, if it is the one for the route. -/
def reroutedField (path : String) (f : String × FieldValue) :
    String × FieldValue :=
  if f.1 = "route" then (f.1, .quoted path) else f

/-- An event with another route in it, if it says that a pattern was
checked. -/
def rerouted (path : String) (e : Event) : Event :=
  if IsChecked e then { e with fields := e.fields.map (reroutedField path) }
  else e

/-- Other events stay as they are. -/
theorem map_rerouted {es : List Event} (h : ∀ e ∈ es, ¬ IsChecked e)
    (path : String) : es.map (rerouted path) = es := by
  have same : ∀ e ∈ es, rerouted path e = id e := fun e he => if_neg (h e he)
  rw [List.map_congr_left same, List.map_id]

-- ================================================================== checks

/-- Reading a body is logged as something else than a check. -/
theorem reading_not_checked (bytes : List UInt8) :
    ∀ e ∈ (Request.ofBytes bytes).2, ¬ IsChecked e := by
  intro e he
  unfold Request.ofBytes at he
  split at he
  · cases he
  · rw [List.mem_singleton.1 he]
    show ¬ "unreadable validation request, using empty pattern"
      = "pattern checked"
    decide

/-- So is the rejection of a pattern. -/
theorem rejection_not_checked (outcome : Except Pattern.Rejection Unit) :
    ∀ e ∈ rejectionEvents outcome, ¬ IsChecked e := by
  intro e he
  cases outcome with
  | ok _ => cases he
  | error r =>
      rw [List.mem_singleton.1 he]
      show ¬ "pattern rejected" = "pattern checked"
      decide

/-- The event that tells of a check takes another route in the place of its
own. -/
theorem rerouted_checkedEvent (route path pattern : String)
    (outcome : Except Pattern.Rejection Unit) :
    rerouted path (checkedEvent route pattern outcome)
      = checkedEvent path pattern outcome := by
  have hchecked : IsChecked (checkedEvent route pattern outcome) := rfl
  unfold rerouted
  rw [if_pos hchecked]
  show Event.mk _ _ _ [reroutedField path _, reroutedField path _,
    reroutedField path _] = _
  unfold reroutedField
  rw [if_pos rfl, if_neg (show ¬ "pattern_len" = "route" by decide),
    if_neg (show ¬ "valid" = "route" by decide)]
  rfl

/-- A check is the same for all routes, but for the name of the route. -/
theorem checkAnswer_route (l : Limits) (route path : String)
    (bytes : List UInt8) :
    checkAnswer l path bytes = ((checkAnswer l route bytes).1,
        (checkAnswer l route bytes).2.map (rerouted path)) := by
  have here := checkAnswer_eq l route bytes
  have there := checkAnswer_eq l path bytes
  dsimp only at here there
  rw [here, there, List.map_append, List.map_append,
    map_rerouted (reading_not_checked bytes),
    map_rerouted (rejection_not_checked _), List.map_singleton,
    rerouted_checkedEvent]

/-- The event that tells of a check names the route. -/
theorem lookup_route {l : Limits} {route : String} {bytes : List UInt8}
    {e : Event} (he : e ∈ (checkAnswer l route bytes).2)
    (hchecked : IsChecked e) :
    e.fields.lookup "route" = some (.quoted route) := by
  have events := checkAnswer_eq l route bytes
  dsimp only at events
  rw [events, List.mem_append, List.mem_append] at he
  rcases he with (he | he) | he
  · exact absurd hchecked (reading_not_checked bytes e he)
  · exact absurd hchecked (rejection_not_checked _ e he)
  · rw [List.mem_singleton.1 he]
    rfl

-- ================================================================== routes

namespace Site

variable {s : Site} {r : Http.Request} {path : String}

/-- What the endpoints that check patterns answer. -/
theorem dispatch_eq_of_check (h : r.target.path ∈ checkPaths) :
    s.dispatch r =
      if r.method = "POST" then
        if r.body.length ≤ r.readable s.config.maxBodyBytes then
          checkAnswer s.config.limits r.target.path r.body
        else quiet .foundTooLong
      else quiet { status := 405 } := by
  obtain ⟨e, he, hroute, hmethods⟩ := Endpoint.of_mem_checkPaths h
  by_cases hmethod : r.method = "POST"
  · have hallowed : r.method ∈ e.methods := by
      rw [hmethods, hmethod]
      exact List.mem_singleton_self _
    rw [s.dispatch_of_allowed r hroute hallowed, if_pos hmethod]
    by_cases hlength : r.body.length ≤ r.readable s.config.maxBodyBytes
    · rw [Endpoint.answer_of_within he hlength, if_pos hlength, hroute]
    · rw [Endpoint.answer_of_beyond he hlength, if_neg hlength]
      rfl
  · have hallowed : r.method ∉ e.methods := by
      rw [hmethods, List.mem_singleton]
      exact hmethod
    rw [s.dispatch_of_not_allowed r hroute hallowed, if_neg hmethod]

/-- Behind the layers the three routes are the same, but for the name of the
route in what is logged. -/
theorem dispatch_route (here : r.target.path ∈ checkPaths)
    (there : path ∈ checkPaths) :
    s.dispatch (toPath r path)
      = ((s.dispatch r).1, (s.dispatch r).2.map (rerouted path)) := by
  rw [dispatch_eq_of_check here,
    dispatch_eq_of_check (r := toPath r path) there]
  by_cases hmethod : r.method = "POST"
  · rw [if_pos hmethod,
      if_pos (show (toPath r path).method = "POST" from hmethod)]
    by_cases hlength : r.body.length ≤ r.readable s.config.maxBodyBytes
    · rw [if_pos hlength]
      exact (if_pos hlength).trans (checkAnswer_route _ _ _ _)
    · rw [if_neg hlength]
      exact if_neg hlength
  · rw [if_neg hmethod]
    exact if_neg hmethod

/-- Behind the layers, the event that tells of a check names the route. -/
theorem lookup_route_of_dispatch (here : r.target.path ∈ checkPaths)
    {e : Event} (he : e ∈ (s.dispatch r).2) (hchecked : IsChecked e) :
    e.fields.lookup "route" = some (.quoted r.target.path) := by
  rw [dispatch_eq_of_check here] at he
  split at he
  · split at he
    · exact lookup_route he hchecked
    · cases he
  · cases he

/-- A route that checks patterns allows the same methods as any other. -/
theorem passage_route (here : r.target.path ∈ checkPaths)
    (there : path ∈ checkPaths) : s.passage (toPath r path) = s.passage r := by
  obtain ⟨e, -, hroute, hmethods⟩ := Endpoint.of_mem_checkPaths here
  obtain ⟨e', -, hroute', hmethods'⟩ := Endpoint.of_mem_checkPaths there
  have methods : (Endpoint.ofPath? path).map Endpoint.methods
      = (Endpoint.ofPath? r.target.path).map Endpoint.methods := by
    rw [← hroute, ← hroute', Endpoint.ofPath?_path, Endpoint.ofPath?_path]
    exact congrArg some (hmethods'.trans hmethods.symm)
  exact congrArg (Passage.mk _ _ _) methods

end Site

/-- The three routes that check patterns cannot be told apart. For another
one of them the same request has the same response, and the same is logged,
but for the route that is named where a pattern is checked. -/
theorem answer_route (s : Site) (r : Http.Request) {path : String}
    (here : r.target.path ∈ checkPaths) (there : path ∈ checkPaths) :
    (s.answer (toPath r path)).1 = (s.answer r).1
      ∧ (s.answer (toPath r path)).2 = (s.answer r).2.map (rerouted path)
      ∧ ∀ e ∈ (s.answer r).2, IsChecked e →
        e.fields.lookup "route" = some (.quoted r.target.path) := by
  have both : s.answer (toPath r path)
      = ((s.answer r).1, (s.answer r).2.map (rerouted path)) := by
    rw [s.answer_eq_through, s.answer_eq_through,
      Site.passage_route here there, Site.dispatch_route here there,
      Passage.through_map]
  refine ⟨by rw [both], by rw [both], fun e he hchecked => ?_⟩
  rw [s.answer_eq_through] at he
  rcases (s.passage r).through_events_eq (s.dispatch r) with hevents | hevents
  · rw [hevents] at he
    exact Site.lookup_route_of_dispatch here he hchecked
  · rw [hevents] at he
    cases he

/-- A pattern on the second route, of a service that holds a file at the path
of the third. -/
theorem answer_route_shadowed :
    let s : Site :=
      { config :=
          { Server.Config.standard .debug with
            cors := true, staticDir := some "site" }
        assets := some ⟨[(["api", "railroad"], ⟨[0x41], 0⟩)]⟩ }
    let r : Http.Request :=
      { method := "POST"
        target := { path := "/api/parse-tree" }
        body := Text.Utf8.encode (requestDocument "(").chars }
    let elsewhere := s.answer (toPath r "/api/railroad")
    elsewhere.1 = (s.answer r).1
      ∧ elsewhere.2 = (s.answer r).2.map (rerouted "/api/railroad")
      ∧ ∃ e ∈ (s.answer r).2, IsChecked e
        ∧ e.fields.lookup "route" = some (.quoted "/api/parse-tree") := by
  intro s r elsewhere
  have here : r.target.path ∈ checkPaths := by decide
  have hlength : r.body.length ≤ r.readable s.config.maxBodyBytes := by
    decide +kernel
  have there : "/api/railroad" ∈ checkPaths := by decide
  obtain ⟨hresponse, hevents, hroute⟩ := answer_route s r here there
  obtain ⟨-, e, he, hchecked⟩ :=
    (Site.dispatch_of_check (s := s) here rfl).1 hlength
  have hanswer : (s.answer r).2 = (s.dispatch r).2 := by
    rw [s.answer_eq_through, Passage.through_events,
      Passage.shared_of_not_question _ _ (by decide)]
    rfl
  rw [← hanswer] at he
  exact ⟨hresponse, hevents, e, he, hchecked, hroute e he hchecked⟩

-- ================================================================== assets

/-- A request by a method that its endpoint does not have. -/
def IsMisused (r : Http.Request) : Prop :=
  r.target.path ∈ checkPaths ∧ r.method ≠ "POST"
    ∨ r.target.path = healthPath ∧ r.method ≠ "GET" ∧ r.method ≠ "HEAD"

namespace Endpoint

/-- The paths of the endpoints. -/
theorem exists_path {path : String} (h : path ∈ healthPath :: checkPaths) :
    ∃ e : Endpoint, e.path = path := by
  rcases List.mem_cons.1 h with rfl | h
  · exact ⟨.health, rfl⟩
  · obtain ⟨e, -, hpath, -⟩ := of_mem_checkPaths h
    exact ⟨e, hpath⟩

end Endpoint

namespace Site

/-- A service with other assets, or with none. -/
def withAssets (s : Site) (dir : Option String) (assets : Option Files) :
    Site :=
  { config := { s.config with staticDir := dir }, assets }

variable {s : Site} {r : Http.Request}

/-- An endpoint answers without a look at the assets. -/
theorem dispatch_assets (h : r.target.path ∈ healthPath :: checkPaths)
    (dir : Option String) (assets : Option Files) :
    (s.withAssets dir assets).dispatch r = s.dispatch r := by
  obtain ⟨e, hpath⟩ := Endpoint.exists_path h
  unfold dispatch
  rw [← hpath, Endpoint.ofPath?_path]
  rfl

/-- A request by a method that its endpoint does not have is refused. -/
theorem dispatch_of_misused (h : IsMisused r) :
    s.dispatch r = quiet { status := 405 } := by
  rcases h with ⟨hpath, hmethod⟩ | ⟨hpath, hget, hhead⟩
  · rw [dispatch_eq_of_check hpath, if_neg hmethod]
  · refine s.dispatch_of_not_allowed r (e := .health) hpath.symm ?_
    simp [Endpoint.methods, hget, hhead]

end Site

/-- The assets have no part in the answers of endpoints: with any of them
and with none, a request has the same answer and the same is logged. So a
request by a method that the endpoint does not have is refused and gets no
content, whatever file there may be at its path; only what is asked or
refused before its endpoint is looked at has another status. -/
theorem answer_assets (s : Site) (r : Http.Request)
    (endpoint : r.target.path ∈ healthPath :: checkPaths) (dir : Option String)
    (assets : Option Files) :
    let withFiles := (s.withAssets dir assets).answer r
    withFiles = (s.withAssets none none).answer r
      ∧ (IsMisused r →
        withFiles.1.status =
            (if s.config.cors = true ∧ r.method = "OPTIONS" then 200
              else if r.declaresTooMuch s.config.maxBodyBytes then 413
                else 405)
          ∧ (r.declaresTooMuch s.config.maxBodyBytes = false →
            withFiles.1.body = [])) := by
  intro withFiles
  have hanswer (dir : Option String) (assets : Option Files) :
      (s.withAssets dir assets).answer r
        = (s.passage r).through (s.dispatch r) := by
    rw [Site.answer_eq_through, Site.dispatch_assets endpoint]
    rfl
  refine ⟨(hanswer dir assets).trans (hanswer none none).symm,
    fun hmisused => ?_⟩
  have hwith :
      withFiles = (s.passage r).through (Site.quiet { status := 405 }) := by
    rw [← Site.dispatch_of_misused (s := s) hmisused]
    exact hanswer dir assets
  rw [hwith]
  exact ⟨Passage.through_status _ _,
    fun hdeclared => Passage.through_body _ _ hdeclared rfl⟩

/-- A page cannot be had by asking for an endpoint, not even where its file
stands at the path of one. -/
theorem answer_assets_shadowed :
    let files : Files := ⟨[(["api", "validate"], ⟨[0x41], 0⟩)]⟩
    let r : Http.Request := { target := { path := "/api/validate" } }
    let s : Site := { config := .standard .debug }
    let withFiles := (s.withAssets (some "site") (some files)).answer r
    withFiles = (s.withAssets none none).answer r
      ∧ withFiles.1.status = 405 ∧ withFiles.1.body = []
      ∧ Http.assetAnswer (some files) r
        = { headers :=
              [("content-type", "application/octet-stream"),
                ("accept-ranges", "bytes"),
                  ("last-modified", "Thu, 01 Jan 1970 00:00:00 GMT"),
                    ("content-length", "1")]
            body := [0x41] } := by
  intro files r s withFiles
  have hmisused : IsMisused r := .inl ⟨by decide, by decide⟩
  obtain ⟨hsame, hrefused⟩ :=
    answer_assets s r (by decide) (some "site") (some files)
  obtain ⟨hstatus, hbody⟩ := hrefused hmisused
  exact ⟨hsame, hstatus.trans (by decide +kernel),
    hbody (by decide +kernel), by decide +kernel⟩

end PatternCheck.Service
