import Mathlib.Algebra.Group.Nat.Defs
import Mathlib.Order.Monotone.Basic
import Mathlib.Tactic.SplitIfs
import PatternCheck.Http.Assets
import PatternCheck.Proofs.Decimal.Digits
import PatternCheck.Proofs.Text.Blank
import PatternCheck.Proofs.Text.Scan

/-
Dates as they are sent and read back. The day of a time is found by taking
off whole eras, centuries, runs of four years and years (`yearOf_spec`) and
then whole months (`monthOf_range'`), and what is taken off is what counting
the days of a date puts back (`seconds_ofSeconds`). The text of a date that
exists is read as that date (`standard_render`), so a time up to the end of
the year 9999 comes back from its text (`ofText?_render_ofSeconds`). Who asks
for a file with the date that it was sent with is told that nothing has
changed (`fileAnswer_of_sent`).
-/

namespace PatternCheck.Http

open Text (Scan Trimmed isBlank)

namespace Date

-- =============================================================== calendar

/-- How many days of a year have passed before a month. -/
def daysBeforeMonth (year month : Nat) : Nat :=
  (List.range month).foldl (fun n m => n + daysIn year m) 0

theorem daysBeforeMonth_succ (year month : Nat) :
    daysBeforeMonth year (month + 1)
      = daysBeforeMonth year month + daysIn year month := by
  rw [daysBeforeMonth, List.range_succ, List.foldl_append]
  rfl

/-- A year has 365 days, or one more. -/
theorem daysBeforeMonth_twelve (year : Nat) :
    daysBeforeMonth year 12 = if isLeap year then 366 else 365 := by
  cases leap : isLeap year <;>
    simp [daysBeforeMonth, daysIn, leap, List.range, List.range.loop]

theorem isLeap_iff (year : Nat) :
    isLeap year = true ↔
      year % 4 = 0 ∧ (year % 100 ≠ 0 ∨ year % 400 = 0) := by
  simp [isLeap]

/-- The days before a year, by the eras, centuries, runs of four years and
years before it. -/
theorem daysBefore_sum {era century four year : Nat} (hcentury : century ≤ 3)
    (hfour : four ≤ 24) (hyear : year ≤ 3) :
    daysBefore (400 * era + 100 * century + 4 * four + year + 1)
      = 146097 * era + 36524 * century + 1461 * four + 365 * year := by
  have fours : (400 * era + 100 * century + 4 * four + year) / 4
      = 100 * era + 25 * century + four := by omega
  have centuries : (400 * era + 100 * century + 4 * four + year) / 100
      = 4 * era + century := by omega
  have eras : (400 * era + 100 * century + 4 * four + year) / 400 = era := by
    omega
  rw [daysBefore, Nat.add_sub_cancel, fours, centuries, eras]
  clear fours centuries eras
  omega

/-- A day is so many eras, centuries, runs of four years, years and days from
the first one. Only the last year of four has a day more, and in the last
four of a century only the one that ends an era. -/
theorem yearOf_parts (day : Nat) :
    ∃ era century four year, century ≤ 3 ∧ four ≤ 24 ∧ year ≤ 3 ∧
      (yearOf day).1 = 400 * era + 100 * century + 4 * four + year + 1 ∧
      day = 146097 * era + 36524 * century + 1461 * four + 365 * year
        + (yearOf day).2 ∧
      (yearOf day).2 ≤ 365 ∧
      ((yearOf day).2 = 365 → year = 3 ∧ (four = 24 → century = 3)) := by
  obtain ⟨inEra, hinEra, inEra_lt, days⟩ : ∃ inEra, day % 146097 = inEra ∧
      inEra < 146097 ∧ day = 146097 * (day / 146097) + inEra :=
    ⟨_, rfl, by omega, by omega⟩
  obtain ⟨century, inCentury, hcentury, hinCentury, century_le, inCentury_le,
      sum, long⟩ :
      ∃ century inCentury, min 3 (inEra / 36524) = century ∧
        inEra - century * 36524 = inCentury ∧ century ≤ 3 ∧
        inCentury ≤ 36524 ∧ inEra = 36524 * century + inCentury ∧
        (inCentury = 36524 → century = 3) :=
    ⟨_, _, rfl, rfl, by omega, by omega, by omega, by omega⟩
  obtain ⟨four, inFour, hfour, hinFour, four_le, inFour_lt, parts⟩ :
      ∃ four inFour, inCentury / 1461 = four ∧ inCentury % 1461 = inFour ∧
        four ≤ 24 ∧ inFour < 1461 ∧ inCentury = 1461 * four + inFour :=
    ⟨_, _, rfl, rfl, by omega, by omega, by omega⟩
  obtain ⟨year, hyear, year_le, begun, within⟩ :
      ∃ year, min 3 (inFour / 365) = year ∧ year ≤ 3 ∧ 365 * year ≤ inFour ∧
        (year ≠ 3 → inFour < 365 * year + 365) :=
    ⟨_, rfl, by omega, by omega, by omega⟩
  simp only [yearOf, hinEra, hcentury, hinCentury, hfour, hinFour, hyear]
  -- how the numbers were computed only costs time from here on
  clear hinEra hcentury hinCentury hfour hinFour hyear
  generalize day / 146097 = era at days
  exact ⟨_, _, _, _, century_le, four_le, year_le, rfl, by omega, by omega,
    by omega⟩

/-- The last year of four has a day more, unless they end a century that does
not end an era. -/
theorem isLeap_last {era century four : Nat} (hfour : four ≤ 24)
    (h : four = 24 → century = 3) :
    isLeap (400 * era + 100 * century + 4 * four + 3 + 1) = true := by
  rw [isLeap_iff]
  refine ⟨by omega, ?_⟩
  by_cases last : four = 24
  · obtain rfl := h last
    exact .inr (by omega)
  · exact .inl (by omega)

/-- The year of a day has begun on it, and is not over. -/
theorem yearOf_spec (day : Nat) :
    daysBefore (yearOf day).1 + (yearOf day).2 = day
      ∧ (yearOf day).2 < daysBeforeMonth (yearOf day).1 12 := by
  obtain ⟨era, century, four, year, hcentury, hfour, hyear, years, days, most,
    long⟩ := yearOf_parts day
  rw [years, daysBefore_sum hcentury hfour hyear, daysBeforeMonth_twelve]
  refine ⟨days.symm, ?_⟩
  split
  · omega
  · next common =>
    refine Nat.lt_of_le_of_ne most fun whole => common ?_
    obtain ⟨rfl, ends⟩ := long whole
    exact isLeap_last hfour ends

/-- The month of a day of a year has begun on it, and is not over. -/
theorem monthOf_range' (year : Nat) :
    ∀ count month day, daysBeforeMonth year month + day
        < daysBeforeMonth year (month + count) →
      ∃ found left,
        monthOf year (List.range' month count) day = (found, left) ∧
        found < month + count ∧ left < daysIn year found ∧
        daysBeforeMonth year found + left = daysBeforeMonth year month + day
  | 0, month, day, h => absurd h (by rw [Nat.add_zero]; omega)
  | count + 1, month, day, h => by
      rw [List.range'_succ, monthOf]
      split
      · next here => exact ⟨month, day, rfl, by omega, here, rfl⟩
      · next past =>
        have sum := daysBeforeMonth_succ year month
        obtain ⟨found, left, hfound, below, within, total⟩ :=
          monthOf_range' year count (month + 1) (day - daysIn year month)
            (by rw [sum, Nat.add_assoc month 1 count, Nat.add_comm 1]; omega)
        exact ⟨found, left, hfound, by omega, within, by omega⟩

/-- Before the next year a whole year more has passed. -/
theorem daysBefore_succ (n : Nat) :
    daysBefore (n + 2) = daysBefore (n + 1) + daysBeforeMonth (n + 1) 12 := by
  have fours : (n + 1) / 4 = n / 4 + if 4 ∣ n + 1 then 1 else 0 := Nat.succ_div
  have centuries : (n + 1) / 100 = n / 100 + if 100 ∣ n + 1 then 1 else 0 :=
    Nat.succ_div
  have eras : (n + 1) / 400 = n / 400 + if 400 ∣ n + 1 then 1 else 0 :=
    Nat.succ_div
  have fewer : n / 100 ≤ n / 4 := Nat.div_le_div_left (by decide) (by decide)
  have leap : isLeap (n + 1) = true ↔
      4 ∣ n + 1 ∧ (¬ 100 ∣ n + 1 ∨ 400 ∣ n + 1) := by
    rw [isLeap_iff, Nat.dvd_iff_mod_eq_zero, Nat.dvd_iff_mod_eq_zero,
      Nat.dvd_iff_mod_eq_zero]
  have hundred : 100 ∣ n + 1 → 4 ∣ n + 1 := Nat.dvd_trans (by decide)
  have fourHundred : 400 ∣ n + 1 → 100 ∣ n + 1 := Nat.dvd_trans (by decide)
  rw [daysBeforeMonth_twelve]
  simp only [daysBefore, Nat.add_sub_cancel, Nat.reduceSubDiff, fours,
    centuries, eras, leap]
  -- with the quotients of the next year the arithmetic would not end
  clear fours centuries eras leap
  split_ifs <;> omega

theorem daysBefore_mono : Monotone daysBefore := by
  refine monotone_nat_of_le_succ fun year => ?_
  cases year with
  | zero => exact Nat.zero_le _
  | succ year =>
      rw [daysBefore_succ]
      exact Nat.le_add_right _ _

/-- A day is in no year that begins after it. -/
theorem yearOf_lt {day year : Nat} (h : day < daysBefore year) :
    (yearOf day).1 < year := by
  by_contra later
  have begun := daysBefore_mono (Nat.not_lt.1 later)
  obtain ⟨sum, -⟩ := yearOf_spec day
  omega

/-- A day is in no year that is over before it. -/
theorem le_yearOf {day year : Nat} (h : daysBefore year ≤ day) :
    year ≤ (yearOf day).1 := by
  by_contra earlier
  obtain ⟨_, _, _, _, -, -, -, positive, -⟩ := yearOf_parts day
  have begun := daysBefore_mono (Nat.not_le.1 earlier)
  rw [positive, Nat.succ_eq_add_one, daysBefore_succ, ← positive] at begun
  obtain ⟨sum, within⟩ := yearOf_spec day
  omega

/-- The time at which the year 10000 begins, which takes a digit too many. -/
def firstUnwritten : Nat := 253402300800

/-- The parts of the date of a time are within bounds, and count its days. -/
structure Counts (d : Date) (time : Nat) : Prop where
  dayNumber : d.dayNumber = time / 86400
  year : 1970 ≤ d.year
  lastYear : time < firstUnwritten → d.year ≤ 9999
  month : d.month < 12
  day : 1 ≤ d.day
  lastDay : d.day ≤ daysIn d.year d.month

theorem counts_ofSeconds (time : Nat) : Counts (ofSeconds time) time := by
  have start : daysBefore 1970 = 719162 := rfl
  have finish : daysBefore 10000 = 3652059 := rfl
  obtain ⟨day, hday⟩ : ∃ day, time / 86400 + daysBefore 1970 = day := ⟨_, rfl⟩
  obtain ⟨sum, within⟩ := yearOf_spec day
  have since : 1970 ≤ (yearOf day).1 := le_yearOf (by omega)
  have known (h : time < firstUnwritten) : (yearOf day).1 ≤ 9999 := by
    unfold firstUnwritten at h
    have before : (yearOf day).1 < 10000 := yearOf_lt (by omega)
    omega
  have first : daysBeforeMonth (yearOf day).1 0 = 0 := rfl
  obtain ⟨month, left, found, month_lt, left_lt, total⟩ :=
    monthOf_range' (yearOf day).1 12 0 (yearOf day).2
      (by rw [first, Nat.zero_add, Nat.zero_add]; exact within)
  rw [← List.range_eq_range'] at found
  have date : ofSeconds time = ⟨(time / 86400 + 3) % 7, (yearOf day).1, month,
      left + 1, time % 86400 / 3600, time % 3600 / 60, time % 60⟩ := by
    rw [ofSeconds, hday, found]
  rw [date]
  refine ⟨?_, since, known, by simpa using month_lt, by simp, left_lt⟩
  show daysBefore (yearOf day).1 - daysBefore 1970
    + daysBeforeMonth (yearOf day).1 month + left = _
  have after := daysBefore_mono since
  omega

/-- A time comes back from its date. -/
theorem seconds_ofSeconds (time : Nat) : (ofSeconds time).seconds = time := by
  rw [seconds, (counts_ofSeconds time).dayNumber]
  show ((time / 86400 * 24 + time % 86400 / 3600) * 60 + time % 3600 / 60) * 60
    + time % 60 = time
  omega

/-- The date of a time exists, and it is a date that can be written. -/
theorem isValid_ofSeconds {time : Nat} (h : time < firstUnwritten) :
    (ofSeconds time).isValid = true := by
  obtain ⟨number, year, known, month, day, lastDay⟩ := counts_ofSeconds time
  simp only [isValid, number, year, known h, month, day, lastDay,
    Bool.and_eq_true, decide_eq_true_eq, and_true]
  refine ⟨⟨⟨?_, ?_⟩, ?_⟩, rfl⟩
  · exact Nat.mod_lt _ (by decide)
  · show time % 3600 / 60 < 60
    omega
  · show time % 86400 / 3600 < 24
    omega

-- ================================================================= texts

theorem length_padded {width n : Nat} (h : n < 10 ^ width) (hw : width ≠ 0) :
    (padded width n).length = width := by
  have short : (Nat.toDigits 10 n).length ≤ width :=
    (Nat.length_toDigits_le_iff (by decide) (Nat.pos_of_ne_zero hw)).2 h
  rw [padded, List.length_append, List.length_replicate]
  omega

/-- Only digits are written. -/
theorem isDigit_padded {width n : Nat} :
    ∀ c ∈ padded width n, Decimal.isDigit 10 c = true := by
  intro c hc
  rcases List.mem_append.1 hc with hc | hc
  · rw [List.eq_of_mem_replicate hc]
    rfl
  · exact Decimal.isDigit_of_mem_toDigits (by decide) (by decide) c hc

theorem digitsValue_padded (width n : Nat) :
    Decimal.digitsValue 10 (padded width n) = n := by
  have zeros (count : Nat) (ds : List Char) : Decimal.digitsValue 10
      (List.replicate count '0' ++ ds) = Decimal.digitsValue 10 ds := by
    induction count with
    | zero => rfl
    | succ count ih => exact ih
  rw [padded, zeros, Decimal.digitsValue_toDigits (by decide) (by decide)]

/-- A number that is written with so many digits is read. -/
theorem digits_padded {width n : Nat} (h : n < 10 ^ width) (hw : width ≠ 0)
    (rest : List Char) : digits width (padded width n ++ rest)
      = some (n, rest) := by
  have length := length_padded h hw
  have taken : (padded width n ++ rest).take width = padded width n :=
    List.take_left' length
  have dropped : (padded width n ++ rest).drop width = rest :=
    List.drop_left' length
  have all : (padded width n).all (Decimal.isDigit 10) = true :=
    List.all_eq_true.2 isDigit_padded
  simp only [digits, taken, dropped, length, all, digitsValue_padded,
    decide_true, Bool.and_self, if_true]

/-- A month is read by its name. -/
theorem monthName_getD {month : Nat} (h : month < 12) (rest : List Char) :
    monthName ((months.getD month "").toList ++ rest)
      = some (month, rest) := by
  match month, h with
  | 0, _ | 1, _ | 2, _ | 3, _ | 4, _ | 5, _ | 6, _ | 7, _ | 8, _ | 9, _
  | 10, _ | 11, _ => rfl

/-- A day of the week is read by its first letters. -/
theorem shortWeekday_getD {day : Nat} (h : day < 7) (rest : List Char) :
    shortWeekday ((shortName (weekdays.getD day "")).toList ++ rest)
      = some (day, rest) := by
  match day, h with
  | 0, _ | 1, _ | 2, _ | 3, _ | 4, _ | 5, _ | 6, _ => rfl

/-- The characters of the text of a date. -/
theorem toList_render (d : Date) :
    d.render.toList
      = (shortName (weekdays.getD d.weekday "")).toList ++ (", ".toList
        ++ (padded 2 d.day ++ ' ' :: ((months.getD d.month "").toList
        ++ ' ' :: (padded 4 d.year ++ ' ' :: (padded 2 d.hour
        ++ ':' :: (padded 2 d.minute ++ ':' :: (padded 2 d.second
        ++ " GMT".toList))))))) := by
  simp [render, String.toList_append]

/-- A time of day is read as it is written. -/
theorem clock_padded {hour minute second : Nat} (hhour : hour < 10 ^ 2)
    (hminute : minute < 10 ^ 2) (hsecond : second < 10 ^ 2)
    (rest : List Char) :
    clock (padded 2 hour ++ ':' :: (padded 2 minute ++ ':' :: (padded 2 second
      ++ rest))) = some ((hour, minute, second), rest) := by
  rw [clock, Scan.bind_of_some (digits_padded hhour (by decide) _),
    Scan.bind_of_some (Scan.char_cons _ _),
    Scan.bind_of_some (digits_padded hminute (by decide) _),
    Scan.bind_of_some (Scan.char_cons _ _),
    Scan.bind_of_some (digits_padded hsecond (by decide) _)]
  rfl

theorem daysIn_le (year month : Nat) : daysIn year month ≤ 31 := by
  unfold daysIn
  split_ifs <;> decide

/-- The parts of a date that exists have names, or as many digits as they are
written with. -/
theorem bounds_of_isValid {d : Date} (h : d.isValid = true) :
    d.weekday < 7 ∧ d.month < 12 ∧ d.year < 10 ^ 4 ∧ d.day < 10 ^ 2 ∧
      d.hour < 10 ^ 2 ∧ d.minute < 10 ^ 2 ∧ d.second < 10 ^ 2 := by
  simp only [isValid, Bool.and_eq_true, decide_eq_true_eq] at h
  obtain ⟨⟨⟨⟨⟨⟨⟨⟨second, minute⟩, hour⟩, -⟩, month⟩, -⟩, year⟩, day⟩,
    weekday⟩ := h
  have last := daysIn_le d.year d.month
  exact ⟨weekday ▸ Nat.mod_lt _ (by decide), month, by omega, by omega,
    by omega, by omega, by omega⟩

/-- A date that exists is what its text is read as. -/
theorem standard_render {d : Date} (h : d.isValid = true) :
    standard d.render.toList = some (d, []) := by
  obtain ⟨weekday, month, year, day, hour, minute, second⟩ :=
    bounds_of_isValid h
  rw [toList_render, standard,
    Scan.bind_of_some (shortWeekday_getD weekday _),
    Scan.bind_of_some (Scan.exactly_append _ _),
    Scan.bind_of_some (digits_padded day (by decide) _),
    Scan.bind_of_some (Scan.char_cons _ _),
    Scan.bind_of_some (monthName_getD month _),
    Scan.bind_of_some (Scan.char_cons _ _),
    Scan.bind_of_some (digits_padded year (by decide) _),
    Scan.bind_of_some (Scan.char_cons _ _),
    Scan.bind_of_some (clock_padded hour minute second _)]
  have zone : Scan.exactly " GMT" " GMT".toList = some ((), []) := rfl
  exact Scan.bind_of_some zone _

/-- Whether there are only characters of ASCII. -/
def isAscii (cs : List Char) : Bool := cs.all (· < '\x80')

@[simp] theorem isAscii_append (as bs : List Char) :
    isAscii (as ++ bs) = (isAscii as && isAscii bs) := List.all_append

@[simp] theorem isAscii_cons (c : Char) (cs : List Char) :
    isAscii (c :: cs) = (decide (c < '\x80') && isAscii cs) := rfl

theorem isAscii_padded (width n : Nat) : isAscii (padded width n) = true := by
  refine List.all_eq_true.2 fun c hc => ?_
  have digit := isDigit_padded c hc
  by_contra other
  have beyond : 0x80 ≤ c.toNat := by
    simpa [Char.lt_def, UInt32.lt_iff_toNat_lt] using other
  simp [Decimal.isDigit, Decimal.digit?, show ¬ c.toNat ≤ 57 by omega,
    show ¬ c.toNat ≤ 90 by omega, show ¬ c.toNat ≤ 122 by omega] at digit

theorem isAscii_month {month : Nat} (h : month < 12) :
    isAscii (months.getD month "").toList = true := by
  match month, h with
  | 0, _ | 1, _ | 2, _ | 3, _ | 4, _ | 5, _ | 6, _ | 7, _ | 8, _ | 9, _
  | 10, _ | 11, _ => rfl

/-- The name of a day of the week begins with a letter. -/
theorem weekday_cons {day : Nat} (h : day < 7) :
    ∃ c cs, (shortName (weekdays.getD day "")).toList = c :: cs
      ∧ isBlank c = false ∧ isAscii (c :: cs) = true := by
  match day, h with
  | 0, _ | 1, _ | 2, _ | 3, _ | 4, _ | 5, _ | 6, _ =>
      exact ⟨_, _, rfl, rfl, rfl⟩

/-- Only ASCII is written, and no blank at either end. -/
theorem render_plain {d : Date} (h : d.isValid = true) :
    isAscii d.render.toList = true
      ∧ Text.trim d.render.toList = d.render.toList := by
  obtain ⟨hweekday, hmonth, -⟩ := bounds_of_isValid h
  obtain ⟨c, cs, begin, shown, ascii⟩ := weekday_cons hweekday
  rw [toList_render, begin]
  refine ⟨?_, Trimmed.trim_eq ⟨⟨c, rfl, shown⟩, 'T', ?_, rfl⟩⟩
  · simp only [isAscii_append, isAscii_cons] at ascii ⊢
    simp only [ascii, isAscii_padded, isAscii_month hmonth]
    rfl
  · simp [List.getLast?_cons, List.getLast?_append]

/-- A time up to the end of the year 9999 comes back from the text of its
date. -/
theorem ofText?_render_ofSeconds {time : Nat} (h : time < firstUnwritten) :
    ofText? (ofSeconds time).render = some time := by
  have valid := isValid_ofSeconds h
  obtain ⟨ascii, trimmed⟩ := render_plain valid
  have read : Scan.whole standard (ofSeconds time).render.toList
      = some (ofSeconds time) := Scan.whole_of_some (standard_render valid)
  rw [isAscii] at ascii
  simp only [ofText?, ascii, if_true, trimmed, bind, Option.bind, read,
    Option.some_or, valid, seconds_ofSeconds]

example : (ofSeconds 784111777).render = "Sun, 06 Nov 1994 08:49:37 GMT" := by
  decide +kernel

end Date

/-- Who asks for a file with the date that it was sent with is told that
nothing has changed. -/
theorem fileAnswer_of_sent {f : File} (h : f.modified < Date.firstUnwritten)
    (name : String) {hs : Headers}
    (sent : hs.get? "if-modified-since"
      = some (Date.ofSeconds f.modified).render)
    (free : hs.get? "if-unmodified-since" = none) :
    fileAnswer f name hs = { status := 304 } := by
  have same := Date.ofText?_render_ofSeconds h
  have told : conditional? f hs = some { status := 304 } := by
    simp [conditional?, sent, free, same]
  rw [fileAnswer, told]

end PatternCheck.Http
