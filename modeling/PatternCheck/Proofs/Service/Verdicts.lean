import PatternCheck.Proofs.Http.Responses
import PatternCheck.Proofs.Json.Documents
import PatternCheck.Proofs.Json.Writing
import PatternCheck.Proofs.Pattern.Rejection
import PatternCheck.Proofs.Service.Answers
import PatternCheck.Proofs.Service.Requests

/-
The answers to checks. What is answered, what is logged and what the
checker says are three accounts of the same verdict, and they agree on
every request that is not refused for its length (`check_answered`).
-/

namespace PatternCheck.Service

open Json (Value)
open Log (Event)
open Pattern (Limits Rejection)
open Text.Utf8 (encode)

-- ============================================================== accounts

/-- The document that says how a check came out. -/
def verdictDocument : Except Rejection Unit → Value
  | .ok () => .object [("valid", .bool true)]
  | .error r => .object [("valid", .bool false), ("error", .string r.display)]

/-- What is logged of a pattern that is rejected. -/
def rejectionEvents : Except Rejection Unit → List Event
  | .ok () => []
  | .error r =>
    [⟨.debug, "regviz_core::validator", "pattern rejected",
      [("error", .text r.display)]⟩]

/-- What is logged of every check that is made. -/
def checkedEvent (route pattern : String) (outcome : Except Rejection Unit) :
    Event :=
  ⟨.debug, "regviz_api::handlers", "pattern checked",
    [("route", .quoted route),
      ("pattern_len", .number (encode pattern.toList).length),
      ("valid", .flag outcome.isOk)]⟩

/-- What is logged of bytes that may be no document: one warning if they
are none. -/
def IsWarning (bytes : List UInt8) (events : List Event) : Prop :=
  match Value.ofBytes bytes with
  | .ok _ => events = []
  | .error _ => ∃ e, e.level = .warn ∧ events = [e]

-- =============================================================== verdicts

/-- A check, with all that is logged of it. -/
theorem checkAnswer_eq (l : Limits) (route : String) (bytes : List UInt8) :
    let p := (Request.ofBytes bytes).1.pattern
    checkAnswer l route bytes
      = (documentResponse (verdictDocument (l.check p)),
      (Request.ofBytes bytes).2 ++ rejectionEvents (l.check p)
        ++ [checkedEvent route p (l.check p)]) := by
  intro p
  have hsize : p.utf8ByteSize = (encode p.toList).length :=
    Text.Utf8.utf8ByteSize_eq p
  have hchecked :
      checked route (Request.ofBytes bytes).1 (Verdict.ofPattern l p).1
        = checkedEvent route p (l.check p) := by
    rw [checked, checkedEvent, hsize, Verdict.ofPattern]
    cases l.check p <;> rfl
  have hevents : (Verdict.ofPattern l p).2 = rejectionEvents (l.check p) := by
    rw [Verdict.ofPattern]
    cases l.check p <;> rfl
  have hdocument :
      (Verdict.ofPattern l p).1.toDocument = verdictDocument (l.check p) := by
    rw [Verdict.ofPattern]
    cases l.check p <;> rfl
  simp only [checkAnswer]
  rw [hchecked, hevents, hdocument]

/-- Reading logs one warning if there is no document, and nothing else. -/
theorem ofBytes_isWarning (bytes : List UInt8) :
    IsWarning bytes (Request.ofBytes bytes).2 := by
  rw [IsWarning, Request.ofBytes]
  cases Value.ofBytes bytes with
  | ok v => rfl
  | error p => exact ⟨_, rfl, rfl⟩

/-- What is answered is a text of the verdict. -/
theorem ofBytes_verdict (outcome : Except Rejection Unit) :
    Value.ofBytes (documentResponse (verdictDocument outcome)).body
      = .ok (verdictDocument outcome) := by
  have hnumbers : (verdictDocument outcome).numbers = [] := by
    cases outcome <;> simp [verdictDocument, Value.numbers,
      Json.membersNumbers]
  have hdepth : (verdictDocument outcome).depth ≤ 127 := by
    cases outcome <;> simp [verdictDocument, Value.depth, Json.membersDepth]
  have htext :=
    Json.chars_spells (verdictDocument outcome) (by simp [hnumbers])
  have hbody : (documentResponse (verdictDocument outcome)).body
      = encode (verdictDocument outcome).chars := by
    rw [documentResponse, Http.Response.ofText, Value.render,
      String.toList_ofList]
  rw [hbody]
  exact Value.ofBytes_of_spells htext.document hdepth

/-- A service leaves no doubt about the type of a document. -/
theorem typesIn_documentResponse (s : Site) (v : Value) :
    Http.Response.typesIn
      ((documentResponse v).adding s.sharing).measured.headers
      = ["application/json"] := by
  have hdocument : Http.Response.typesIn [("content-type", "application/json")]
      = ["application/json"] := by
    decide +kernel
  have hsharing : Http.Response.typesIn s.sharing = [] := by
    rw [Site.sharing]
    cases s.config.cors <;> decide +kernel
  rw [Http.Response.typesIn_measured, Http.Response.adding_headers,
    Http.Response.typesIn_append, hsharing, List.append_nil]
  exact hdocument

/-- A check that is answered at all is answered with the verdict of the
checker, in a document that can be read back; and what is logged is, in
this order, a warning if the body is no document, the verdict if it is
against the pattern, and that the pattern was checked. -/
theorem check_answered (s : Site) {r : Http.Request}
    (hpath : r.target.path ∈ ["/api/validate", "/api/parse-tree",
      "/api/railroad"])
    (hmethod : r.method = "POST") (hstatus : (s.answer r).1.status = 200) :
    let p := (Request.ofBytes r.body).1.pattern
    let outcome := s.config.limits.check p
    Value.ofBytes (s.answer r).1.body = .ok (verdictDocument outcome)
      ∧ (∀ x, outcome = .error x → x.display ≠ "")
      ∧ Http.Response.typesIn (s.answer r).1.headers = ["application/json"]
      ∧ ∃ warnings, IsWarning r.body warnings
        ∧ (s.answer r).2 = warnings ++ rejectionEvents outcome
          ++ [checkedEvent r.target.path p outcome] := by
  intro p outcome
  obtain ⟨e, he, hpath, hmethods⟩ :
      ∃ e : Endpoint, e ≠ .health ∧ r.target.path = e.path
        ∧ r.method ∈ e.methods := by
    simp only [List.mem_cons, List.not_mem_nil, or_false] at hpath
    rw [hmethod]
    rcases hpath with hpath | hpath | hpath
    · exact ⟨.validate, by decide, hpath, by decide⟩
    · exact ⟨.parseTree, by decide, hpath, by decide⟩
    · exact ⟨.railroad, by decide, hpath, by decide⟩
  have hanswer := s.answer_of_endpoint hpath hmethods
  rcases s.admitted_of_check he r with ⟨-, hadmitted⟩ | ⟨-, hrefused, -⟩
  · have hcheck := checkAnswer_eq s.config.limits e.path r.body
    rw [hadmitted, hcheck] at hanswer
    rw [hanswer]
    refine ⟨?_, fun x hx => Pattern.display_ne_empty_of_check hx, ?_, ?_⟩
    · rw [Http.Response.toMethod_body _ (by rw [hmethod]; decide),
        Http.Response.measured_body, Http.Response.adding_body]
      exact ofBytes_verdict outcome
    · rw [Http.Response.toMethod_headers]
      exact typesIn_documentResponse s (verdictDocument outcome)
    · rw [hpath]
      exact ⟨_, ofBytes_isWarning r.body, rfl⟩
  · rw [hanswer] at hstatus
    simp [hrefused] at hstatus

/-- The request to check a single parenthesis. -/
theorem check_answered_unclosed :
    let s : Site := { config := .standard .debug }
    let r : Http.Request :=
      { method := "POST"
        target := { path := "/api/validate" }
        body := encode (requestDocument "(").chars }
    Value.ofBytes (s.answer r).1.body
        = .ok (.object [("valid", .bool false),
          ("error", .string "unclosed group at position 0")])
      ∧ (s.answer r).2 =
        [Verdict.rejected "unclosed group at position 0",
          ⟨.debug, "regviz_api::handlers", "pattern checked",
            [("route", .quoted "/api/validate"), ("pattern_len", .number 1),
              ("valid", .flag false)]⟩] := by
  intro s r
  have hbytes : Request.ofBytes r.body = (⟨"("⟩, []) :=
    ofBytes_requestDocument "("
  have hcheck :
      Limits.check {} "("
        = .error (.syntaxError ⟨"unclosed group", some 0⟩) := by
    decide +kernel
  have htakes : s.takes r := by
    refine ⟨rfl, ?_⟩
    decide +kernel
  have hstatus : (s.answer r).1.status = 200 :=
    s.status_of_check (e := .validate) (by decide) rfl
      (List.mem_singleton.2 rfl) htakes
  obtain ⟨hbody, -, -, warnings, hwarnings, hevents⟩ :=
    check_answered s (by decide) rfl hstatus
  have hnone : warnings = [] := by
    have hread := ofBytes_isWarning r.body
    rw [hbytes] at hread
    revert hread hwarnings
    rw [IsWarning, IsWarning]
    cases Value.ofBytes r.body with
    | ok v => exact fun h _ => h
    | error p =>
        rintro - ⟨e, -, he⟩
        cases he
  have houtcome : s.config.limits.check (Request.ofBytes r.body).1.pattern
      = .error (.syntaxError ⟨"unclosed group", some 0⟩) := by
    rw [hbytes]
    exact hcheck
  rw [houtcome] at hbody hevents
  rw [hbody, hevents, hnone, hbytes]
  exact ⟨rfl, rfl⟩

end PatternCheck.Service
