import PatternCheck.Net.Address
import PatternCheck.Proofs.Decimal.Digits
import PatternCheck.Proofs.Text.Scan

/-
Addresses, read from the texts that are written of them. A number is read
from its digits, four bytes from what is written of them, and groups up to
the first thing that is neither a group nor a colon before one (`Stops`).
Of the zeros that a text leaves out it does not matter which they are, only
that they are zeros and that there is room for them.
-/

namespace PatternCheck.Net

open Text (Scan)
open Decimal (isDigit digitsValue)

-- =============================================================== validity

/-- The parts of an address are as large as they may be. -/
def Address.Valid (a : Address) : Prop :=
  a.port < 65536 ∧
    match a.host with
    | .v4 a b c d => a < 256 ∧ b < 256 ∧ c < 256 ∧ d < 256
    | .v6 groups scope =>
      groups.length = 8 ∧ (∀ g ∈ groups, g < 65536) ∧ scope < UInt32.size

namespace Address

variable {rest : List Char}

-- ================================================================ numbers

/-- Whether a text goes on with no digit of some base. -/
def NoDigit (base : Nat) (cs : List Char) : Prop :=
  ∀ c ∈ cs.head?, isDigit base c = false

/-- A number is read from its digits. -/
theorem number_toDigits {base bound n : Nat} {most : Option Nat}
    (padded : Bool) (hbase : 1 < base) (hbase' : base ≤ 16) (hn : n < bound)
    (hmost : ∀ m ∈ most, (Nat.toDigits base n).length ≤ m)
    (hrest : NoDigit base rest) :
    number base bound most padded (Nat.toDigits base n ++ rest)
      = some (n, rest) := by
  have hspan := Scan.someSpan_append Nat.toDigits_ne_nil
    (Decimal.isDigit_of_mem_toDigits hbase hbase' (n := n)) hrest
  have hlength : most.any (· < (Nat.toDigits base n).length) = false := by
    cases most with
    | none => rfl
    | some m => simpa using hmost m rfl
  have hplain : (!padded && (Nat.toDigits base n).head? == some '0'
      && decide (1 < (Nat.toDigits base n).length)) = false := by
    have h := Decimal.toDigits_plain hbase hbase' n
    rw [Bool.eq_false_iff]
    intro hzero
    simp only [Bool.and_eq_true, beq_iff_eq, decide_eq_true_eq] at hzero
    exact h ⟨hzero.1.2, hzero.2⟩
  rw [number, Scan.bind_of_some hspan]
  simp only [hlength, hplain, Decimal.digitsValue_toDigits hbase hbase',
    Bool.false_eq_true, if_false, if_neg (Nat.not_le_of_lt hn),
    Scan.pure_apply]

/-- No number is read where there is no digit. -/
theorem number_of_noDigit {base bound : Nat} {most : Option Nat}
    {padded : Bool} (h : NoDigit base rest) :
    number base bound most padded rest = none := by
  rw [number, Scan.bind_of_none (Scan.someSpan_of_not h)]

theorem byte_toDigits {n : Nat} (hn : n < 256) (hrest : NoDigit 10 rest) :
    byte (Nat.toDigits 10 n ++ rest) = some (n, rest) := by
  refine number_toDigits false (by decide) (by decide) hn
    (fun m hm => ?_) hrest
  cases hm
  exact (Nat.length_toDigits_le_iff (by decide) (by decide)).2 (by omega)

theorem group_toDigits {n : Nat} (hn : n < 65536) (hrest : NoDigit 16 rest) :
    group (Nat.toDigits 16 n ++ rest) = some (n, rest) := by
  refine number_toDigits true (by decide) (by decide) hn (fun m hm => ?_) hrest
  cases hm
  exact (Nat.length_toDigits_le_iff (by decide) (by decide)).2 (by omega)

/-- A port ends the text of an address. -/
theorem portAfterColon_toDigits {n : Nat} (hn : n < 65536) :
    portAfterColon (':' :: Nat.toDigits 10 n) = some (n, []) := by
  have hread :
      number 10 65536 none true (Nat.toDigits 10 n ++ []) = some (n, []) :=
    number_toDigits true (by decide) (by decide) hn (by simp)
      (by simp [NoDigit])
  rw [List.append_nil] at hread
  rw [portAfterColon, Scan.bind_of_some (Scan.char_cons _ _), hread]

-- ============================================================= four bytes

/-- The text of four bytes. -/
def bytesChars (a b c d : Nat) : List Char :=
  Nat.toDigits 10 a ++ '.' :: (Nat.toDigits 10 b ++ '.' :: (Nat.toDigits 10 c
    ++ '.' :: Nat.toDigits 10 d))

theorem toList_bytesText (a b c d : Nat) :
    (bytesText a b c d).toList = bytesChars a b c d := by
  simp [bytesText, bytesChars, toString, Nat.toList_repr]

theorem pointed_toDigits {n : Nat} (hn : n < 256) (hrest : NoDigit 10 rest) :
    pointed ('.' :: (Nat.toDigits 10 n ++ rest)) = some (n, rest) := by
  rw [pointed, Scan.bind_of_some (Scan.char_cons _ _), byte_toDigits hn hrest]

theorem fourBytes_bytesChars {a b c d : Nat} (ha : a < 256) (hb : b < 256)
    (hc : c < 256) (hd : d < 256) (hrest : NoDigit 10 rest) :
    fourBytes (bytesChars a b c d ++ rest) = some ((a, b, c, d), rest) := by
  have hpoint (cs : List Char) : NoDigit 10 ('.' :: cs) := by
    intro x hx
    cases hx
    decide
  simp only [bytesChars, List.append_assoc, List.cons_append]
  rw [fourBytes, Scan.bind_of_some (byte_toDigits ha (hpoint _)),
    Scan.bind_of_some (pointed_toDigits hb (hpoint _)),
    Scan.bind_of_some (pointed_toDigits hc (hpoint _)),
    Scan.bind_of_some (pointed_toDigits hd hrest)]
  rfl

/-- What a number leaves are the characters after the digits. -/
theorem number_left {base bound n : Nat} {most : Option Nat} {padded : Bool}
    {cs : List Char} (h : number base bound most padded cs = some (n, rest)) :
    rest = cs.dropWhile (isDigit base) := by
  rw [number, Scan.bind_apply, Scan.someSpan] at h
  by_cases hhead : cs.head?.any (isDigit base) = true
  · rw [if_pos hhead, Scan.span, Option.bind_some] at h
    dsimp only at h
    split at h
    · cases h
    · split at h
      · cases h
      · split at h
        · cases h
        · cases h
          rfl
  · rw [if_neg hhead] at h
    cases h

/-- Digits without a point after them are no four bytes. -/
theorem fourBytes_of_noPoint {cs : List Char}
    (h : (cs.dropWhile (isDigit 10)).head? ≠ some '.') :
    fourBytes cs = none := by
  rw [fourBytes]
  cases hbyte : byte cs with
  | none => exact Scan.bind_of_none hbyte _
  | some x =>
      obtain ⟨n, rest⟩ := x
      have hrest := number_left hbyte
      rw [← hrest] at h
      have hpointed : pointed rest = none :=
        Scan.bind_of_none (Scan.char_of_ne h) _
      rw [Scan.bind_of_some hbyte, Scan.bind_of_none hpointed]

-- ================================================================ groups

/-- The text of groups, with a colon before each of them, or before all but
the first. -/
def groupsChars : Bool → List Nat → List Char
  | _, [] => []
  | first, g :: gs =>
    (if first then [] else [':'])
      ++ (Nat.toDigits 16 g ++ groupsChars false gs)

theorem toList_groupsText (gs : List Nat) :
    (groupsText gs).toList = groupsChars true gs := by
  have hmore (g : Nat) (gs : List Nat) :
      List.intercalate [':'] ((g :: gs).map (Nat.toDigits 16))
        = Nat.toDigits 16 g ++ groupsChars false gs := by
    induction gs generalizing g with
    | nil => simp [groupsChars]
    | cons h gs ih =>
        rw [List.map_cons, List.map_cons, List.intercalate_cons_cons,
          ← List.map_cons, ih]
        simp [groupsChars]
  rw [groupsText, String.toList_intercalate, List.map_map]
  cases gs with
  | nil => rfl
  | cons g gs => simpa [Function.comp_def, groupsChars] using hmore g gs

/-- Whether a text goes on with no further group. -/
structure Stops (cs : List Char) : Prop where
  noDigit : NoDigit 16 cs
  noPoint : cs.head? ≠ some '.'
  noGroup : ∀ r, cs = ':' :: r → NoDigit 16 r

/-- Decimal digits are hexadecimal ones. -/
theorem isDigit_of_decimal {c : Char} (h : isDigit 10 c = true) :
    isDigit 16 c = true := by
  by_cases hc : 0x30 ≤ c.toNat ∧ c.toNat ≤ 0x39
  · simp [isDigit, Decimal.digit?, hc, show c.toNat - 0x30 < 16 by omega]
  · have hnone : Decimal.digit? 10 c = none := by
      simp only [Decimal.digit?, if_neg hc]
      refine if_neg ?_
      split <;> (try split) <;> omega
    rw [isDigit, hnone] at h
    cases h

theorem NoDigit.decimal {cs : List Char} (h : NoDigit 16 cs) :
    NoDigit 10 cs := by
  intro c hc
  rw [Bool.eq_false_iff]
  intro hten
  exact Bool.eq_false_iff.1 (h c hc) (isDigit_of_decimal hten)

theorem following_true {α : Type} (s : Scan α) : following true s = s := rfl

theorem following_false {α : Type} (s : Scan α) (cs : List Char) :
    following false s (':' :: cs) = s cs := by
  show (Scan.char ':' >>= fun _ => s) (':' :: cs) = s cs
  rw [Scan.bind_of_some (Scan.char_cons _ _)]

theorem following_of_ne {α : Type} {s : Scan α} {cs : List Char}
    (h : cs.head? ≠ some ':') : following false s cs = none := by
  show (Scan.char ':' >>= fun _ => s) cs = none
  rw [Scan.bind_of_none (Scan.char_of_ne h)]

/-- Where no group follows, no four bytes do either. -/
theorem Stops.following {cs : List Char} (h : Stops cs) (first : Bool) :
    following first fourBytes cs = none ∧ following first group cs = none := by
  have hpart (cs : List Char) (hcs : NoDigit 16 cs) :
      fourBytes cs = none ∧ group cs = none :=
    ⟨Scan.bind_of_none (number_of_noDigit hcs.decimal) _,
      number_of_noDigit hcs⟩
  cases first with
  | true => exact hpart cs h.noDigit
  | false =>
      by_cases hcolon : cs.head? = some ':'
      · obtain ⟨r, rfl⟩ : ∃ r, cs = ':' :: r := by
          cases cs with
          | nil => cases hcolon
          | cons c r => exact ⟨r, by simpa using hcolon⟩
        rw [following_false, following_false]
        exact hpart r (h.noGroup r rfl)
      · exact ⟨following_of_ne hcolon, following_of_ne hcolon⟩

/-- A group and what may follow it are no four bytes. -/
theorem fourBytes_group (g : Nat) {cs : List Char} (hdigit : NoDigit 16 cs)
    (hpoint : cs.head? ≠ some '.') :
    fourBytes (Nat.toDigits 16 g ++ cs) = none := by
  refine fourBytes_of_noPoint ?_
  have hdigits : ∀ c ∈ Nat.toDigits 16 g, isDigit 16 c = true :=
    Decimal.isDigit_of_mem_toDigits (by decide) (by decide)
  generalize Nat.toDigits 16 g = ds at hdigits ⊢
  induction ds with
  | nil =>
      cases cs with
      | nil => simp
      | cons c cs =>
          have hc : isDigit 10 c = false := hdigit.decimal c rfl
          simpa [hc] using hpoint
  | cons d ds ih =>
      by_cases hd : isDigit 10 d = true
      · rw [List.cons_append, List.dropWhile_cons_of_pos hd]
        exact ih fun c hc => hdigits c (List.mem_cons_of_mem d hc)
      · rw [List.cons_append, List.dropWhile_cons_of_neg hd]
        have hd' := hdigits d List.mem_cons_self
        intro hhead
        cases hhead
        exact absurd hd' (by decide)

section Steps

variable {acc : List Nat} {room : Nat} {cs : List Char}

/-- Where neither four bytes nor a group can be read, the groups end. -/
theorem groups_end (hbytes : following acc.isEmpty fourBytes cs = none)
    (hgroup : following acc.isEmpty group cs = none) :
    groups acc (room + 1) cs = some ((acc.reverse, false), cs) := by
  rw [groups]
  by_cases hroom : room = 0
  · rw [if_pos hroom, Scan.bind_of_some (Scan.pure_apply none cs)]
    exact Scan.bind_of_some (Scan.maybe_of_none hgroup) _
  · rw [if_neg hroom, Scan.bind_of_some (Scan.maybe_of_none hbytes)]
    exact Scan.bind_of_some (Scan.maybe_of_none hgroup) _

/-- A group is put to those before. -/
theorem groups_more {g : Nat}
    (hbytes : following acc.isEmpty fourBytes cs = none)
    (hgroup : following acc.isEmpty group cs = some (g, rest)) :
    groups acc (room + 1) cs = groups (g :: acc) room rest := by
  rw [groups]
  by_cases hroom : room = 0
  · rw [if_pos hroom, Scan.bind_of_some (Scan.pure_apply none cs)]
    exact Scan.bind_of_some (Scan.maybe_of_some hgroup) _
  · rw [if_neg hroom, Scan.bind_of_some (Scan.maybe_of_none hbytes)]
    exact Scan.bind_of_some (Scan.maybe_of_some hgroup) _

/-- Four bytes are two groups, and no more come after them. -/
theorem groups_bytes {a b c d : Nat} (hroom : room ≠ 0)
    (hbytes : following acc.isEmpty fourBytes cs = some ((a, b, c, d), rest)) :
    groups acc (room + 1) cs
      = some ((((c * 256 + d) :: (a * 256 + b) :: acc).reverse, true),
        rest) := by
  rw [groups, if_neg hroom, Scan.bind_of_some (Scan.maybe_of_some hbytes)]
  rfl

end Steps

/-- Groups are read up to where they stop. -/
theorem groups_groupsChars {gs : List Nat} (hgs : ∀ g ∈ gs, g < 65536)
    (hrest : Stops rest) :
    ∀ (acc : List Nat) (room : Nat), gs.length ≤ room →
      groups acc room (groupsChars acc.isEmpty gs ++ rest)
        = some ((acc.reverse ++ gs, false), rest) := by
  induction gs with
  | nil =>
      intro acc room _
      obtain ⟨hbytes, hgroup⟩ := hrest.following acc.isEmpty
      cases room with
      | zero => simp [groups, groupsChars]
      | succ room =>
          rw [groupsChars, List.nil_append, groups_end hbytes hgroup,
            List.append_nil]
  | cons g gs ih =>
      intro acc room hroom
      obtain ⟨room, rfl⟩ : ∃ n, room = n + 1 :=
        ⟨room - 1, by simp at hroom; omega⟩
      obtain ⟨hg, hgs⟩ := List.forall_mem_cons.1 hgs
      have hnext : NoDigit 16 (groupsChars false gs ++ rest)
          ∧ (groupsChars false gs ++ rest).head? ≠ some '.' := by
        cases gs with
        | nil => exact ⟨hrest.noDigit, hrest.noPoint⟩
        | cons h gs =>
            refine ⟨fun c hc => ?_, by simp [groupsChars]⟩
            cases hc
            decide
      have hlead {α : Type} (s : Scan α) :
          following acc.isEmpty s (groupsChars acc.isEmpty (g :: gs) ++ rest)
            = s (Nat.toDigits 16 g ++ (groupsChars false gs ++ rest)) := by
        rw [groupsChars]
        cases acc.isEmpty with
        | true => simp [following_true]
        | false => simp [following_false]
      have hbytes : following acc.isEmpty fourBytes
          (groupsChars acc.isEmpty (g :: gs) ++ rest) = none := by
        rw [hlead, fourBytes_group g hnext.1 hnext.2]
      have hgroup :
          following acc.isEmpty group
          (groupsChars acc.isEmpty (g :: gs) ++ rest)
            = some (g, groupsChars false gs ++ rest) := by
        rw [hlead, group_toDigits hg hnext.1]
      have hrec := ih hgs (g :: acc) room (by simpa using hroom)
      rw [List.isEmpty_cons] at hrec
      rw [groups_more hbytes hgroup, hrec]
      simp

theorem groups_first {gs : List Nat} {room : Nat} (hgs : ∀ g ∈ gs, g < 65536)
    (hroom : gs.length ≤ room) (hrest : Stops rest) :
    groups [] room (groupsChars true gs ++ rest) = some ((gs, false), rest) :=
  groups_groupsChars hgs hrest [] room hroom

-- ======================================================== zeros left out

/-- Whether the groups of a run are there and are zeros. -/
def Run.Zeros (r : Run) (gs : List Nat) : Prop :=
  ∀ i, r.start ≤ i → i < r.start + r.length → gs[i]? = some 0

theorem Run.Zeros.append {r : Run} {gs : List Nat} (h : r.Zeros gs)
    (more : List Nat) : r.Zeros (gs ++ more) := by
  intro i hstart hend
  have hi := h i hstart hend
  obtain ⟨hlength, -⟩ := List.getElem?_eq_some_iff.1 hi
  rw [List.getElem?_append_left hlength, hi]

/-- Among the groups, a run of zeros is what its length says. -/
theorem Run.Zeros.take_drop {r : Run} {gs : List Nat} (h : r.Zeros gs)
    (hr : 0 < r.length) :
    r.start + r.length ≤ gs.length ∧
      gs.take r.start ++ (List.replicate r.length 0
        ++ gs.drop (r.start + r.length)) = gs := by
  have hroom : r.start + r.length ≤ gs.length := by
    obtain ⟨hlast, -⟩ := List.getElem?_eq_some_iff.1
      (h (r.start + r.length - 1) (by omega) (by omega))
    omega
  refine ⟨hroom, ?_⟩
  have hzeros :
      (gs.drop r.start).take r.length = List.replicate r.length 0 := by
    refine List.eq_replicate_iff.2 ⟨by simp; omega, fun g hg => ?_⟩
    obtain ⟨i, hi, rfl⟩ := List.getElem_of_mem hg
    have hlength : i < r.length := by simp at hi; omega
    have hget :=
      (List.getElem?_eq_some_iff.1 (h (r.start + i) (by omega) (by omega))).2
    rw [List.getElem_take, List.getElem_drop, hget]
  rw [← List.drop_drop, ← hzeros, List.take_append_drop, List.take_append_drop]

/-- The longest run of zeros is one. `done` are the groups before; the
current run, where there is one, ends with them. -/
theorem longestZeros_zeros (gs : List Nat) :
    ∀ (done : List Nat) (best current : Run),
    best.Zeros done → current.Zeros done →
      (current.length ≠ 0 → current.start + current.length = done.length) →
      (longestZeros best current done.length gs).Zeros (done ++ gs) := by
  induction gs with
  | nil =>
      intro done best current hbest _ _
      simpa [longestZeros] using hbest
  | cons g gs ih =>
      intro done best current hbest hcurrent hends
      have hsnoc : done ++ g :: gs = (done ++ [g]) ++ gs := by simp
      have hlength : done.length + 1 = (done ++ [g]).length := by simp
      rw [longestZeros, hsnoc, hlength]
      by_cases hg : g = 0
      · subst hg
        rw [if_pos rfl]
        dsimp only
        generalize hstart : (if current.length = 0 then
          done.length else current.start) = start
        have hlast : start + current.length = done.length := by
          by_cases hnone : current.length = 0
          · rw [← hstart, if_pos hnone, hnone, Nat.add_zero]
          · rw [← hstart, if_neg hnone, hends hnone]
        have hextended :
            Run.Zeros ⟨start, current.length + 1⟩ (done ++ [0]) := by
          intro i hi hi'
          simp only at hi hi'
          by_cases hbefore : i < done.length
          · have hnone : current.length ≠ 0 := by omega
            rw [if_neg hnone] at hstart
            exact hcurrent.append [0] i (by omega) (by omega)
          · have hi : i = done.length := by omega
            simp [hi]
        refine ih _ _ _ ?_ hextended fun _ => ?_
        · by_cases hlonger : best.length < current.length + 1
          · rw [if_pos hlonger]
            exact hextended
          · rw [if_neg hlonger]
            exact hbest.append [0]
        · simp only [List.length_append, List.length_singleton]
          omega
      · rw [if_neg hg]
        exact ih _ _ _ (hbest.append [g])
          (fun i _ hi => absurd hi (by simp only; omega))
          (fun h => absurd rfl h)

-- ================================================================= hosts

/-- Two colons stop groups. -/
theorem stops_colons (cs : List Char) : Stops (':' :: ':' :: cs) where
  noDigit := by
    intro c hc
    cases hc
    decide
  noPoint := by simp
  noGroup := by
    intro r hr c hc
    cases hr
    cases hc
    decide

/-- Two colons stand for the groups that are missing. -/
theorem eightGroups_colons {head tail : List Nat} {short : Bool}
    {cs cs' : List Char}
    (hhead : groups [] 8 cs = some ((head, false), ':' :: ':' :: cs'))
    (hlength : head.length < 8)
    (htail : groups [] (7 - head.length) cs' = some ((tail, short), rest)) :
    eightGroups cs
      = some (head ++ List.replicate (8 - head.length - tail.length) 0 ++ tail,
        rest) := by
  rw [eightGroups, Scan.bind_of_some hhead]
  dsimp only
  rw [if_neg (by omega), if_neg Bool.false_ne_true]
  refine (Scan.bind_of_some (Scan.exactly_append "::" cs') _).trans ?_
  exact Scan.bind_of_some htail _

/-- Eight groups without any left out. -/
theorem eightGroups_all {gs : List Nat} (hlength : gs.length = 8)
    (hgs : ∀ g ∈ gs, g < 65536) (hrest : Stops rest) :
    eightGroups (groupsChars true gs ++ rest) = some (gs, rest) := by
  rw [eightGroups,
    Scan.bind_of_some (groups_first hgs (Nat.le_of_eq hlength) hrest)]
  dsimp only
  rw [if_pos hlength, Scan.pure_apply]

/-- Eight groups, and a run of zeros among them left out. -/
theorem eightGroups_zeros {gs : List Nat} {zeros : Run}
    (hlength : gs.length = 8) (hgs : ∀ g ∈ gs, g < 65536)
    (hzeros : zeros.Zeros gs) (hsome : 0 < zeros.length) (hrest : Stops rest) :
    eightGroups (groupsChars true (gs.take zeros.start)
        ++ ':' :: ':'
          :: (groupsChars true (gs.drop (zeros.start + zeros.length)) ++ rest))
      = some (gs, rest) := by
  obtain ⟨hroom, hsplit⟩ := hzeros.take_drop hsome
  have hbefore : (gs.take zeros.start).length ≤ 8 := by simp; omega
  have hafter :
      (gs.drop (zeros.start + zeros.length)).length
        ≤ 7 - (gs.take zeros.start).length := by
    simp; omega
  have hhead :=
    groups_first (fun g hg => hgs g (List.mem_of_mem_take hg)) hbefore
      (stops_colons
        (groupsChars true (gs.drop (zeros.start + zeros.length)) ++ rest))
  have htail :=
    groups_first (fun g hg => hgs g (List.mem_of_mem_drop hg)) hafter hrest
  have hmissing : 8 - (gs.take zeros.start).length
      - (gs.drop (zeros.start + zeros.length)).length = zeros.length := by
        simp; omega
  rw [eightGroups_colons hhead (by simp; omega) htail, hmissing,
    List.append_assoc, hsplit]

/-- Groups whose last two are written as four bytes. -/
theorem eightGroups_bytes {a b c d : Nat} (ha : a < 256) (hb : b < 256)
    (hc : c < 256) (hd : d < 256) (hrest : NoDigit 10 rest) :
    eightGroups ("::ffff:".toList ++ (bytesChars a b c d ++ rest))
      = some ([0, 0, 0, 0, 0, 0xFFFF, a * 256 + b, c * 256 + d], rest) := by
  have hcolon (cs : List Char) : NoDigit 16 (':' :: cs) := by
    intro x hx
    cases hx
    decide
  have htext :
      "::ffff:".toList = ':' :: ':' :: (Nat.toDigits 16 0xFFFF ++ [':']) := by
    decide +kernel
  have hhead : groups [] 8
      (':' :: ':' :: (Nat.toDigits 16 0xFFFF
        ++ ':' :: (bytesChars a b c d ++ rest)))
        = some (([], false), _) :=
    groups_first (fun _ hg => absurd hg List.not_mem_nil) (Nat.zero_le 8)
      (stops_colons _)
  -- the first of the groups after the colons is no four bytes, as a colon
  -- follows it
  have htail :
      groups [] 7 (Nat.toDigits 16 0xFFFF
        ++ ':' :: (bytesChars a b c d ++ rest))
        = some (([0xFFFF, a * 256 + b, c * 256 + d], true), rest) := by
    have hbytes :
        following (List.isEmpty [0xFFFF]) fourBytes
        (':' :: (bytesChars a b c d ++ rest))
          = some ((a, b, c, d), rest) :=
      (following_false fourBytes _).trans
        (fourBytes_bytesChars ha hb hc hd hrest)
    have hno : following (List.isEmpty ([] : List Nat)) fourBytes
        (Nat.toDigits 16 0xFFFF ++ ':' :: (bytesChars a b c d ++ rest))
          = none :=
      fourBytes_group 0xFFFF (hcolon _) (by simp)
    rw [groups_more hno (group_toDigits (by decide) (hcolon _)),
      groups_bytes (by decide) hbytes]
    rfl
  rw [htext, List.cons_append, List.cons_append, List.append_assoc,
    List.singleton_append, eightGroups_colons hhead (by decide) htail]
  rfl

/-- The text of eight groups is read as them. -/
theorem eightGroups_hostText {gs : List Nat} (hlength : gs.length = 8)
    (hgs : ∀ g ∈ gs, g < 65536) (hrest : Stops rest) :
    eightGroups ((hostText gs).toList ++ rest) = some (gs, rest) := by
  unfold hostText
  split
  case h_1 high low =>
    have hhigh : high < 65536 := hgs high (by simp)
    have hlow : low < 65536 := hgs low (by simp)
    have hread :=
      eightGroups_bytes (a := high / 256) (b := high % 256) (c := low / 256)
        (d := low % 256) (by omega) (by omega) (by omega) (by omega)
        hrest.noDigit.decimal
    rw [String.toList_append, toList_bytesText, List.append_assoc, hread,
      Nat.div_add_mod' high 256, Nat.div_add_mod' low 256]
  case h_2 =>
    have hzeros :=
      longestZeros_zeros gs [] ⟨0, 0⟩ ⟨0, 0⟩ (by intro i; simp)
        (by intro i; simp) (by simp)
    rw [List.length_nil, List.nil_append] at hzeros
    dsimp only
    split
    · have hread := eightGroups_zeros hlength hgs hzeros (by omega) hrest
      simpa [toList_groupsText] using hread
    · rw [toList_groupsText, eightGroups_all hlength hgs hrest]

-- ============================================================= addresses

/-- An address of version 4 is read from its text. -/
theorem version4_chars {a b c d port : Nat} (ha : a < 256) (hb : b < 256)
    (hc : c < 256) (hd : d < 256) (hport : port < 65536) :
    version4 (bytesChars a b c d ++ ':' :: Nat.toDigits 10 port)
      = some (⟨.v4 a b c d, port⟩, []) := by
  have hcolon : NoDigit 10 (':' :: Nat.toDigits 10 port) := by
    intro x hx
    cases hx
    decide
  rw [version4, Scan.bind_of_some (fourBytes_bytesChars ha hb hc hd hcolon)]
  exact Scan.bind_of_some (portAfterColon_toDigits hport) _

/-- What comes after the groups of an address ends them. -/
theorem stops_of_head {c : Char} (h : c = ']' ∨ c = '%') (cs : List Char) :
    Stops (c :: cs) := by
  have hc : isDigit 16 c = false ∧ c ≠ '.' ∧ c ≠ ':' := by
    rcases h with rfl | rfl <;> decide
  refine ⟨fun x hx => ?_, by simpa using hc.2.1, fun r hr => ?_⟩
  · cases hx
    exact hc.1
  · exact absurd (List.cons.inj hr).1 hc.2.2

/-- The number of an interface, which is left out where it is zero. -/
def scopeChars (scope : Nat) : List Char :=
  if scope = 0 then [] else '%' :: Nat.toDigits 10 scope

theorem maybe_interface {scope : Nat} (hscope : scope < UInt32.size)
    (cs : List Char) :
    ∃ found : Option Nat, found.getD 0 = scope
      ∧ Scan.maybe interface (scopeChars scope ++ ']' :: cs)
        = some (found, ']' :: cs) := by
  have hbracket : NoDigit 10 (']' :: cs) := by
    intro x hx
    cases hx
    decide
  by_cases hzero : scope = 0
  · have hnone : interface (']' :: cs) = none :=
      Scan.bind_of_none (Scan.char_of_ne (by simp)) _
    refine ⟨none, hzero.symm, ?_⟩
    rw [scopeChars, if_pos hzero, List.nil_append, Scan.maybe_of_none hnone]
  · have hsome : interface ('%' :: (Nat.toDigits 10 scope ++ ']' :: cs))
        = some (scope, ']' :: cs) := by
      rw [interface, Scan.bind_of_some (Scan.char_cons _ _)]
      exact number_toDigits true (by decide) (by decide) hscope (by simp)
        hbracket
    refine ⟨some scope, rfl, ?_⟩
    rw [scopeChars, if_neg hzero, List.cons_append, Scan.maybe_of_some hsome]

/-- An address of version 6 is read from its text. -/
theorem version6_chars {gs : List Nat} {scope port : Nat}
    (hlength : gs.length = 8) (hgs : ∀ g ∈ gs, g < 65536)
    (hscope : scope < UInt32.size) (hport : port < 65536) :
    version6 ('[' :: ((hostText gs).toList
        ++ (scopeChars scope ++ ']' :: ':' :: Nat.toDigits 10 port)))
      = some (⟨.v6 gs scope, port⟩, []) := by
  have hstops :
      Stops (scopeChars scope ++ ']' :: ':' :: Nat.toDigits 10 port) := by
    rw [scopeChars]
    split
    · exact stops_of_head (.inl rfl) _
    · exact stops_of_head (.inr rfl) _
  obtain ⟨found, hfound, hread⟩ :=
    maybe_interface hscope (':' :: Nat.toDigits 10 port)
  rw [version6, Scan.bind_of_some (Scan.char_cons _ _)]
  refine (Scan.bind_of_some (eightGroups_hostText hlength hgs hstops) _).trans
    ?_
  refine (Scan.bind_of_some hread _).trans ?_
  refine (Scan.bind_of_some (Scan.char_cons _ _) _).trans ?_
  refine (Scan.bind_of_some (portAfterColon_toDigits hport) _).trans ?_
  rw [hfound, Scan.pure_apply]

/-- An address is read from the text that is written of it. -/
theorem ofText?_render {a : Address} (ha : a.Valid) :
    ofText? a.render = some a := by
  obtain ⟨host, port⟩ := a
  obtain ⟨hport, hhost⟩ := ha
  cases host with
  | v4 a b c d =>
      obtain ⟨ha, hb, hc, hd⟩ := hhost
      have htext : (render ⟨.v4 a b c d, port⟩).toList
          = bytesChars a b c d ++ ':' :: Nat.toDigits 10 port := by
        simp [render, toString, toList_bytesText, Nat.toList_repr]
      rw [ofText?, htext]
      exact Scan.whole_of_some
        (Scan.orElse_of_some (version4_chars ha hb hc hd hport))
  | v6 gs scope =>
      obtain ⟨hlength, hgs, hscope⟩ := hhost
      have htext : (render ⟨.v6 gs scope, port⟩).toList
          = '[' :: ((hostText gs).toList
            ++ (scopeChars scope ++ ']' :: ':' :: Nat.toDigits 10 port)) := by
        rw [render, scopeChars]
        dsimp only
        split <;> simp [toString, Nat.toList_repr]
      have hbracket (cs : List Char) : version4 ('[' :: cs) = none := by
        have hnone : fourBytes ('[' :: cs) = none :=
          fourBytes_of_noPoint
            (by rw [List.dropWhile_cons_of_neg (by decide)]; simp)
        rw [version4, Scan.bind_of_none hnone]
      rw [ofText?, htext]
      refine Scan.whole_of_some ?_
      rw [Scan.orElse_of_none (hbracket _),
        version6_chars hlength hgs hscope hport]

end Address

end PatternCheck.Net
