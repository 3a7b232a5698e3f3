import PatternCheck.Pattern.Matcher
import PatternCheck.Text.Utf8
import PatternCheck.Unicode.ByteRange

/-
The texts that a match can begin with. Where these are few and are whole
matches at that, a pattern is found by looking for the texts themselves,
and is never compiled (`Matcher.isTextSearch`).

`Prefixes` is a list of texts in the order of preference, or nothing if
there is no useful bound; a text is exact if it is a whole match. The
list is kept short by fixed limits, at the price of exactness.
-/

namespace PatternCheck.Pattern

open Unicode (CodeSet commonLength)

-- ============================================================== lists

/-- The beginning of a match; all of the match if it is exact. -/
structure Prefix where
  bytes : List UInt8
  exact : Bool := true
deriving Repr, DecidableEq, Inhabited

/-- The beginnings of all matches, or no bound on them. -/
abbrev Prefixes := Option (List Prefix)

namespace Prefixes

/-- The most characters of a set that are taken one by one. -/
def setLimit : Nat := 10

/-- The most repetitions that are written out. -/
def repeatLimit : Nat := 10

/-- The most bytes of one text. -/
def lengthLimit : Nat := 100

/-- The most texts. -/
def countLimit : Nat := 250

/-- The empty text, exact. -/
def unit : List Prefix := [⟨[], true⟩]

/-- Joins equal neighbours; the joint text is exact if both are. -/
def joinEqual (ps : List Prefix) : List Prefix :=
  ps.foldr add []
where
  add (p : Prefix) : List Prefix → List Prefix
    | q :: rest =>
      if p.bytes = q.bytes then ⟨q.bytes, p.exact && q.exact⟩ :: rest
      else p :: q :: rest
    | [] => [p]

/-- Cuts texts after `n` bytes; a text that is cut is no longer exact. -/
def keepFirst (n : Nat) (ps : List Prefix) : List Prefix :=
  ps.map fun p => if n < p.bytes.length then ⟨p.bytes.take n, false⟩ else p

/-- None of the texts is exact. -/
def inexact (ps : List Prefix) : List Prefix :=
  ps.map fun p => { p with exact := false }

/-- Every text of the first list that is exact goes on with each of the
second. -/
def followed (ps qs : List Prefix) : List Prefix :=
  joinEqual (ps.flatMap fun p =>
    if p.exact then qs.map fun q => ⟨p.bytes ++ q.bytes, q.exact⟩ else [p])

/-- What a match of one thing and then another begins with. -/
def andThen (ps qs : Prefixes) : Prefixes := do
  let ps ← ps
  let bounded := qs.filter fun qs => ps.length * qs.length ≤ countLimit
  match bounded with
  | some qs => return keepFirst lengthLimit (followed ps qs)
  | none =>
    if ps.any (·.bytes.isEmpty) then none
    else return keepFirst lengthLimit (inexact ps)

/-- What a match of one thing or another begins with. -/
def orElse (ps qs : Prefixes) : Prefixes := do
  let ps ← ps
  let qs ← qs
  if ps.length + qs.length ≤ countLimit then return joinEqual (ps ++ qs)
  else
    let ps := joinEqual (keepFirst 4 ps)
    let qs := joinEqual (keepFirst 4 qs)
    if ps.length + qs.length ≤ countLimit then return joinEqual (ps ++ qs)
    else none

/-- Whether nothing more can be added behind the texts. -/
def isClosed : Prefixes → Bool
  | none => true
  | some ps => ps.all (!·.exact)

/-- `n` times the same, one after the other. -/
def times (n : Nat) (ps : Prefixes) : Prefixes :=
  (List.range n).foldl (fun acc _ =>
    if isClosed acc then acc else andThen acc ps) (some unit)

-- =========================================================== extraction

/-- One character of a set. -/
def ofSet (s : CodeSet) : Prefixes :=
  if setLimit < s.size then none
  else
    some (s.ranges.flatMap fun r =>
      (List.range r.size).map fun i =>
        ⟨Text.Utf8.encodePoint (r.lo + i), true⟩)

/-- A repetition of something that begins with `ps`. -/
def ofRepetition (count : Count) (greedy : Bool) (ps : Prefixes) : Prefixes :=
  match count with
  | ⟨0, max⟩ =>
    let some' := if max = some 1 then ps else ps.map inexact
    if greedy then orElse some' (some unit) else orElse (some unit) some'
  | ⟨n, max⟩ =>
    let written := times (min n repeatLimit) ps
    if max = some n && n ≤ repeatLimit then written else written.map inexact

end Prefixes

namespace Matcher

/-- The beginnings of the matches. -/
def prefixes : Matcher → Prefixes
  | .empty => some Prefixes.unit
  | .assertion .. => some Prefixes.unit
  | .text cs =>
    some (Prefixes.keepFirst Prefixes.lengthLimit
      [⟨Text.Utf8.encode cs, true⟩])
  | .set s => Prefixes.ofSet s
  | .capture sub => sub.prefixes
  | .repetition count greedy sub =>
    Prefixes.ofRepetition count greedy sub.prefixes
  | .sequence subs => inOrder (some Prefixes.unit) subs
  | .choice subs => anyOf (some []) subs
where
  /-- Goes on with the parts of a sequence. -/
  inOrder (acc : Prefixes) : List Matcher → Prefixes
    | [] => acc
    | x :: rest =>
      if Prefixes.isClosed acc then acc
      else inOrder (Prefixes.andThen acc x.prefixes) rest
  /-- Adds the alternatives of a choice. -/
  anyOf (acc : Prefixes) : List Matcher → Prefixes
    | [] => acc
    | x :: rest =>
      if acc.isNone then none else anyOf (Prefixes.orElse acc x.prefixes) rest

end Matcher

-- ========================================================== text search

namespace Prefixes

/-- Bytes so frequent in texts that looking for one of them finds little. -/
def isFrequent (b : UInt8) : Bool :=
  0xC0 ≤ b || ("\n\r (),-./0129:_abcdefghilmnoprstuvxy|".toList.any fun c =>
    c.toNat = b.toNat)

/-- Drops texts that begin with an earlier one, which is preferred. -/
def preferred (ps : List Prefix) : List Prefix :=
  (ps.foldl (fun kept p =>
    if kept.any fun q => q.bytes.isPrefixOf p.bytes then kept
    else p :: kept) []).reverse

/-- How many bytes all texts have in common at the beginning. -/
def common : List Prefix → Nat
  | [] => 0
  | p :: rest =>
    rest.foldl (fun n q => min n (commonLength p.bytes q.bytes)) p.bytes.length

/-- Cuts a long list of texts down, step by step, as long as it has more
than the limit of the step. -/
def shorten : List (Nat × Nat) → List Prefix → List Prefix
  | [], ps => ps
  | (keep, limit) :: steps, ps =>
    if ps.length ≤ limit then ps
    else shorten steps (preferred (keepFirst keep ps))

/-- The steps of `shorten`: bytes to keep, and the number of texts that is
few enough. -/
def shortenSteps : List (Nat × Nat) :=
  [(5, 10), (4, 10), (3, 64), (2, 64), (1, 10)]

def allExact (ps : List Prefix) : Bool := ps.all (·.exact)

/-- What is looked for. A long or a common beginning is looked for in
place of many texts, which are then no whole matches any more. -/
def searched (all : List Prefix) : List Prefix :=
  let ps := preferred all
  let n := common ps
  let rare := match ps with
    | { bytes := b :: _, .. } :: _ => !isFrequent b
    | _ => false
  if 1 < all.length && 1 ≤ n && n ≤ 3 && rare then joinEqual (keepFirst 1 ps)
  else
    let fast := allExact ps && ps.length ≤ 16
    let ps :=
      if 4 < n || (1 < n && !fast) then joinEqual (keepFirst n ps) else ps
    let short := shorten shortenSteps ps
    let useful :=
      short.all (2 < ·.bytes.length) && !short.isEmpty && short.length ≤ 64
    if allExact ps && !useful then ps else short

/-- Whether some texts can be looked for instead of matching. -/
def isSearchable (all : List Prefix) : Bool :=
  !all.isEmpty && !all.any (·.bytes.isEmpty) && allExact (searched all)

end Prefixes

namespace Matcher

/-- The number of texts from which a choice between texts is always
searched for directly. -/
def manyTexts : Nat := 3000

/-- Whether the matcher is a choice between very many texts. -/
def isDictionary : Matcher → Bool
  | .choice subs =>
    manyTexts ≤ subs.length && subs.all fun | .text _ => true | _ => false
  | _ => false

/-- Whether the matches are found by looking for texts, without compiling
anything. What captures or looks around has to be compiled. This, too, is
an estimate: a search engine weighs the number and the length of its texts
by more than the bounds of this module. -/
def isTextSearch (m : Matcher) : Bool :=
  m.captures = 0 && !m.hasAssertion
    && (m.prefixes.any Prefixes.isSearchable || m.isDictionary)

end Matcher

end PatternCheck.Pattern
