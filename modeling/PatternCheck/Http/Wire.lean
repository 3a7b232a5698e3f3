import PatternCheck.Http.Message

/-
Requests and responses as they travel: a line that says what it is about,
a line for each header, an empty line, and the body. How long the body of
a request is, its headers say.
-/

namespace PatternCheck.Http

/-- A line without the mark of its end. -/
def withoutEnd (line : String) : String :=
  String.ofList (line.toList.filter fun c => c ≠ '\r' && c ≠ '\n')

/-- The parts of a text between blanks; `part` is the current one, latest
character first. -/
def wordsFrom (part : List Char) : List Char → List String
  | [] => if part.isEmpty then [] else [String.ofList part.reverse]
  | c :: rest =>
    if c = ' ' then
      (if part.isEmpty then [] else [String.ofList part.reverse])
        ++ wordsFrom [] rest
    else wordsFrom (c :: part) rest

/-- The header on a line. -/
def headerOfLine? (line : String) : Option (String × String) :=
  let cs := line.toList
  let name := cs.takeWhile (· ≠ ':')
  match cs.drop name.length with
  | _ :: value =>
    some (String.ofList name, String.ofList (value.dropWhile (· = ' ')))
  | [] => none

namespace Request

/-- The request that begins with some lines, still without a body. -/
def ofLines? : List String → Option Request
  | [] => none
  | first :: rest =>
    match wordsFrom [] first.toList with
    | [method, target, _] =>
      some
        { method
          target := .ofText target
          headers := rest.filterMap headerOfLine? }
    | _ => none

end Request

/-- The words for a status. -/
def reason : Nat → String
  | 200 => "OK"
  | 206 => "Partial Content"
  | 304 => "Not Modified"
  | 307 => "Temporary Redirect"
  | 404 => "Not Found"
  | 405 => "Method Not Allowed"
  | 412 => "Precondition Failed"
  | 413 => "Payload Too Large"
  | 416 => "Range Not Satisfiable"
  | _ => ""

/-- What comes before the body of a response. -/
def Response.head (r : Response) : String :=
  let line (h : String × String) : String := s!"{h.1}: {h.2}\r\n"
  s!"HTTP/1.1 {r.status} {reason r.status}\r\n"
    ++ String.join (r.measured.headers.map line) ++ "\r\n"

end PatternCheck.Http
