import PatternCheck.Http.Message

/-
What becomes of a response on its way out. Each step changes one part of it
and leaves the others as they are; only the answer to a request for the
headers alone loses its content.
-/

namespace PatternCheck.Http.Response

variable (r : Response)

@[simp] theorem adding_status (hs : Headers) :
    (r.adding hs).status = r.status := rfl

/-- What is added comes after all that was said before. -/
@[simp] theorem adding_headers (hs : Headers) :
    (r.adding hs).headers = r.headers ++ hs := rfl

@[simp] theorem adding_body (hs : Headers) : (r.adding hs).body = r.body := rfl

/-- The length of a body says nothing about the status. -/
@[simp] theorem measured_status : r.measured.status = r.status := by
  rw [measured]
  split <;> rfl

/-- The body is measured, not changed. -/
@[simp] theorem measured_body : r.measured.body = r.body := by
  rw [measured]
  split <;> rfl

@[simp] theorem toMethod_status (method : String) :
    (r.toMethod method).status = r.status := by
  rw [toMethod]
  split <;> rfl

/-- An answer about an answer has all its headers. -/
@[simp] theorem toMethod_headers (method : String) :
    (r.toMethod method).headers = r.headers := by
  rw [toMethod]
  split <;> rfl

/-- Only where nothing but the headers was asked for is there no body. -/
theorem toMethod_body {method : String} (h : method ≠ "HEAD") :
    (r.toMethod method).body = r.body := by
  rw [toMethod, if_neg h]

-- ================================================================= types

/-- The types that some headers name for a content. -/
def typesIn (hs : Headers) : List String :=
  (hs.filter fun h => Headers.fold h.1 = "content-type").map (·.2)

/-- Headers say what they say one after the other. -/
theorem typesIn_append (hs hs' : Headers) :
    typesIn (hs ++ hs') = typesIn hs ++ typesIn hs' := by
  rw [typesIn, List.filter_append, List.map_append]
  rfl

/-- The length of a content says nothing about its type. -/
theorem typesIn_measured : typesIn r.measured.headers = typesIn r.headers := by
  have hlength :
      decide (Headers.fold "content-length" = "content-type") = false := by
    decide +kernel
  rw [measured]
  split
  · rfl
  · rw [adding_headers, typesIn_append]
    simp [typesIn, hlength]

end PatternCheck.Http.Response
