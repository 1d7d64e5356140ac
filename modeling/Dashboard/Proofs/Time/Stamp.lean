/-
  Dashboard.Proofs.Time.Stamp
  ───────────────────────────
  **STAMPS KEEP THE ORDER OF THE CLOCK.**

  A clock reading is written as date and time with milliseconds.  In the years
  0 to 9999 that text is a timestamp and names the reading to the millisecond;
  the years outside carry a sign and are no timestamps, so they stand before
  nothing and after nothing.

  Main results:
    dayNumber_ofDayNumber — the calendar gives each day number back
    isValid_ofDayNumber   — as a date that exists
    moment?_stamp         — what moment a stamp names
    isBefore_stamp_of_le  — no later reading has an earlier stamp
-/
import Dashboard.Time.Instant
import Dashboard.Time.Rfc3339

namespace Dashboard.Time

/-! ## §1. The calendar. -/

/-- The century within an era of 400 years. -/
theorem century_of_era {doe : Int} (h0 : 0 ≤ doe) (h1 : doe < 146097) :
    (doe - doe / 1460 + doe / 36524 - doe / 146096) / 365 / 100
      = doe / 36524 - doe / 146096 := by
  -- one century at a time, as its number is the quotient of a sum of quotients
  have hcases : doe / 36524 = 0 ∨ doe / 36524 = 1 ∨ doe / 36524 = 2 ∨ doe / 36524 = 3 ∨
      doe / 36524 = 4 := by
    omega
  rcases hcases with h | h | h | h | h <;> omega

/-- The year and the day of the year within an era of 400 years. -/
theorem era_bounds {doe : Int} (h0 : 0 ≤ doe) (h1 : doe < 146097) :
    let yoe := (doe - doe / 1460 + doe / 36524 - doe / 146096) / 365
    let doy := doe - (365 * yoe + yoe / 4 - yoe / 100)
    0 ≤ yoe ∧ yoe ≤ 399 ∧ 0 ≤ doy ∧ doy ≤ 365 := by
  intro yoe doy
  have hyoe : 0 ≤ yoe ∧ yoe ≤ 399 := by omega
  have hlow : yoe / 4 ≤ doe / 1460 := by omega
  have hhigh : doe / 1460 ≤ yoe / 4 + 1 := by omega
  have hcentury : yoe / 100 = doe / 36524 - doe / 146096 := century_of_era h0 h1
  refine ⟨hyoe.1, hyoe.2, ?_, ?_⟩
  · omega
  · omega

/-- A year of 366 days ends a leap year: the next year is divisible by 4, and
by 100 only where it ends the era. -/
theorem leap_of_last_day {doe : Int} (h0 : 0 ≤ doe) (h1 : doe < 146097) :
    let yoe := (doe - doe / 1460 + doe / 36524 - doe / 146096) / 365
    let doy := doe - (365 * yoe + yoe / 4 - yoe / 100)
    doy = 365 → yoe % 4 = 3 ∧ (yoe % 100 ≠ 99 ∨ yoe = 399) := by
  intro yoe doy hdoy
  have hyoe : 0 ≤ yoe ∧ yoe ≤ 399 := by omega
  have hcentury : yoe / 100 = doe / 36524 - doe / 146096 := century_of_era h0 h1
  constructor
  · omega
  · omega

/-- The month and the day of a year that begins in March. -/
theorem month_bounds {doy : Int} (h0 : 0 ≤ doy) (h1 : doy ≤ 365) :
    let mp := (5 * doy + 2) / 153
    let day := doy - (153 * mp + 2) / 5 + 1
    let month := if mp < 10 then mp + 3 else mp - 9
    1 ≤ day ∧ day ≤ 31 ∧ 1 ≤ month ∧ month ≤ 12 ∧
      (((month.toNat + 9) % 12 : Nat) : Int) = mp := by
  intro mp day month
  have hmp : 0 ≤ mp ∧ mp ≤ 11 := by omega
  have hday : 1 ≤ day ∧ day ≤ 31 := by omega
  have hmonth : 1 ≤ month ∧ month ≤ 12 ∧ (((month.toNat + 9) % 12 : Nat) : Int) = mp := by
    by_cases h : mp < 10
    · have hspring : month = mp + 3 := if_pos h
      omega
    · have hwinter : month = mp - 9 := if_neg h
      omega
  exact ⟨hday.1, hday.2, hmonth.1, hmonth.2.1, hmonth.2.2⟩

/-- The months from March to January, counted from 0, in days. -/
theorem daysInMonth_fromMarch (year : Int) {m : Nat} (h : m < 11) :
    (daysInMonth year ((m + 2) % 12 + 1) : Int) = (153 * (m + 1) + 2) / 5 - (153 * m + 2) / 5 := by
  have hcases : m = 0 ∨ m = 1 ∨ m = 2 ∨ m = 3 ∨ m = 4 ∨ m = 5 ∨ m = 6 ∨ m = 7 ∨ m = 8 ∨ m = 9 ∨
      m = 10 := by
    omega
  rcases hcases with rfl | rfl | rfl | rfl | rfl | rfl | rfl | rfl | rfl | rfl | rfl <;> rfl

/-- A day of a year that begins in March is one of its month, if a year of 366
days ends in a leap year. -/
theorem day_le_daysInMonth {doy year : Int} (h0 : 0 ≤ doy) (h1 : doy ≤ 365)
    (hleap : doy = 365 → isLeapYear year = true) :
    let mp := (5 * doy + 2) / 153
    let day := doy - (153 * mp + 2) / 5 + 1
    let month := if mp < 10 then mp + 3 else mp - 9
    day.toNat ≤ daysInMonth year month.toNat := by
  intro mp day month
  have hmonth : month.toNat = (mp.toNat + 2) % 12 + 1 := by
    by_cases h : mp < 10
    · have hspring : month = mp + 3 := if_pos h
      omega
    · have hwinter : month = mp - 9 := if_neg h
      omega
  rw [hmonth]
  by_cases hlast : mp = 11
  · -- February has what is left of the year
    rw [hlast]
    show _ ≤ if isLeapYear year then 29 else 28
    by_cases hfull : doy = 365
    · rw [if_pos (hleap hfull)]
      omega
    · split <;> omega
  · have hlen := daysInMonth_fromMarch year (m := mp.toNat) (by omega)
    have hnat : ((mp.toNat : Nat) : Int) = mp := by omega
    rw [hnat] at hlen
    omega

/-- **The calendar gives each day number back**, by a month and a day of two
digits. -/
theorem Date.dayNumber_ofDayNumber (n : Int) :
    (ofDayNumber n).dayNumber = n ∧ (ofDayNumber n).month < 100 ∧ (ofDayNumber n).day < 100 := by
  have hdays : ∀ z : Int, Int.fdiv z 146097 = z / 146097 :=
    fun z => Int.fdiv_eq_ediv_of_nonneg z (by decide)
  have hyears : ∀ y : Int, Int.fdiv y 400 = y / 400 :=
    fun y => Int.fdiv_eq_ediv_of_nonneg y (by decide)
  simp only [ofDayNumber, dayNumber, hdays, hyears]
  -- name each quantity, so that the arithmetic sees one relation at a time
  generalize hz : n + 719468 = z
  generalize hdoe : z - z / 146097 * 146097 = doe
  have hera := era_bounds (show 0 ≤ doe by omega) (show doe < 146097 by omega)
  dsimp only at hera
  generalize hyoe : (doe - doe / 1460 + doe / 36524 - doe / 146096) / 365 = yoe at hera ⊢
  generalize hdoy : doe - (365 * yoe + yoe / 4 - yoe / 100) = doy at hera ⊢
  obtain ⟨hyoe0, hyoe1, hdoy0, hdoy1⟩ := hera
  have hmonth := month_bounds hdoy0 hdoy1
  dsimp only at hmonth
  generalize hmp : (5 * doy + 2) / 153 = mp at hmonth ⊢
  generalize hm : (if mp < 10 then mp + 3 else mp - 9) = month at hmonth ⊢
  obtain ⟨hday0, hday1, hmonth0, hmonth1, hback⟩ := hmonth
  rw [hback]
  -- January and February count as the end of the year before
  have hyear : (if month.toNat ≤ 2 then yoe + z / 146097 * 400 + (if month ≤ 2 then 1 else 0) - 1
      else yoe + z / 146097 * 400 + (if month ≤ 2 then 1 else 0)) = yoe + z / 146097 * 400 := by
    by_cases hjan : month ≤ 2
    · rw [if_pos hjan, if_pos (by omega)]
      omega
    · rw [if_neg hjan, if_neg (by omega)]
      omega
  have hquotient : (yoe + z / 146097 * 400) / 400 = z / 146097 := by omega
  have hrest : yoe + z / 146097 * 400 - z / 146097 * 400 = yoe := by omega
  rw [hyear, hquotient, hrest]
  omega

/-- **Each day number has a date of the calendar.** -/
theorem Date.isValid_ofDayNumber (n : Int) : (ofDayNumber n).isValid = true := by
  have hdays : ∀ z : Int, Int.fdiv z 146097 = z / 146097 :=
    fun z => Int.fdiv_eq_ediv_of_nonneg z (by decide)
  simp only [ofDayNumber, isValid, hdays, Bool.and_eq_true, decide_eq_true_eq]
  generalize hz : n + 719468 = z
  generalize hdoe : z - z / 146097 * 146097 = doe
  have hera := era_bounds (show 0 ≤ doe by omega) (show doe < 146097 by omega)
  have hlast := leap_of_last_day (show 0 ≤ doe by omega) (show doe < 146097 by omega)
  dsimp only at hera hlast
  generalize hyoe : (doe - doe / 1460 + doe / 36524 - doe / 146096) / 365 = yoe at hera hlast ⊢
  generalize hdoy : doe - (365 * yoe + yoe / 4 - yoe / 100) = doy at hera hlast ⊢
  obtain ⟨-, -, hdoy0, hdoy1⟩ := hera
  have hmonth := month_bounds hdoy0 hdoy1
  dsimp only at hmonth
  constructor
  · omega
  · apply day_le_daysInMonth hdoy0 hdoy1
    intro hfull
    obtain ⟨hfour, hcentury⟩ := hlast hfull
    have hfebruary : (if (5 * doy + 2) / 153 < 10 then (5 * doy + 2) / 153 + 3
        else (5 * doy + 2) / 153 - 9) ≤ 2 := by
      rw [hfull]
      decide
    rw [if_pos hfebruary]
    simp only [isLeapYear, Bool.or_eq_true, Bool.and_eq_true, decide_eq_true_eq]
    omega

/-! ## §2. Padded numbers. -/

theorem toList_padded (width n : Nat) : (padded width n).toList
    = List.replicate (width - (Nat.toDigits 10 n).length) '0' ++ Nat.toDigits 10 n := by
  have hlen : (toString n).length = (Nat.toDigits 10 n).length := by
    rw [Nat.toString_eq_ofList_toDigits, String.length_ofList]
  unfold padded
  dsimp only
  rw [hlen, String.toList_append, String.toList_ofList, Nat.toString_eq_ofList_toDigits,
    String.toList_ofList]

theorem isDigit_of_mem_padded {width n : Nat} {c : Char} (h : c ∈ (padded width n).toList) :
    c.isDigit = true := by
  rw [toList_padded] at h
  rcases List.mem_append.mp h with h | h
  · rw [(List.mem_replicate.mp h).2]
    rfl
  · exact Nat.isDigit_of_mem_toDigits (by decide) (by decide) h

theorem ofDigitChars_padded (width n : Nat) :
    Nat.ofDigitChars 10 (padded width n).toList 0 = n := by
  rw [toList_padded, Nat.ofDigitChars_append, Nat.ofDigitChars_replicate_zero, Nat.mul_zero,
    Nat.ofDigitChars_ten_toDigits]

theorem length_padded {width n : Nat} (hwidth : 0 < width) (h : n < Nat.pow 10 width) :
    (padded width n).toList.length = width := by
  have hle : (Nat.toDigits 10 n).length ≤ width :=
    (Nat.length_toDigits_le_iff (by decide) hwidth).mpr h
  rw [toList_padded, List.length_append, List.length_replicate]
  omega

namespace Rfc3339

theorem digit?_of_isDigit {c : Char} (h : c.isDigit = true) : digit? c = some (c.toNat - 48) :=
  if_pos h

theorem twoDigits?_append {cs : List Char} (hlen : cs.length = 2)
    (hdigits : ∀ c ∈ cs, c.isDigit = true) (rest : List Char) :
    twoDigits? (cs ++ rest) = some (Nat.ofDigitChars 10 cs 0, rest) := by
  match cs, hlen with
  | [a, b], _ =>
      show twoDigits? (a :: b :: rest) = _
      rw [twoDigits?, digit?_of_isDigit (hdigits a (by simp)),
        digit?_of_isDigit (hdigits b (by simp)), Nat.ofDigitChars_cons, Nat.ofDigitChars_cons,
        Nat.ofDigitChars_nil, Nat.mul_zero, Nat.zero_add, Nat.mul_comm]
      rfl

theorem twoDigits?_padded {n : Nat} (h : n < 100) (rest : List Char) :
    twoDigits? ((padded 2 n).toList ++ rest) = some (n, rest) := by
  rw [twoDigits?_append (length_padded (by decide) h) (fun _ => isDigit_of_mem_padded),
    ofDigitChars_padded]

/-- Four digits are read as two and two. -/
theorem twoDigits?_padded_four {n : Nat} (h : n < 10000) (rest : List Char) :
    ∃ century year left, twoDigits? ((padded 4 n).toList ++ rest) = some (century, left) ∧
      twoDigits? left = some (year, rest) ∧ century * 100 + year = n := by
  have hdigits : ∀ c ∈ (padded 4 n).toList, c.isDigit = true := fun _ => isDigit_of_mem_padded
  have hvalue := ofDigitChars_padded 4 n
  have hlen := length_padded (show 0 < 4 by decide) h
  generalize (padded 4 n).toList = cs at hdigits hvalue hlen ⊢
  -- the value of four digits is a hundred times the first two, and the last two
  rw [← List.take_append_drop 2 cs] at hvalue ⊢
  have hfirst : (cs.take 2).length = 2 := by rw [List.length_take, hlen]; rfl
  have hlast : (cs.drop 2).length = 2 := by rw [List.length_drop, hlen]
  rw [List.append_assoc]
  refine ⟨_, _, _, twoDigits?_append hfirst (fun c hc => hdigits c (List.mem_of_mem_take hc)) _,
    twoDigits?_append hlast (fun c hc => hdigits c (List.mem_of_mem_drop hc)) _, ?_⟩
  rw [Nat.ofDigitChars_append, Nat.ofDigitChars_eq_ofDigitChars_zero, hlast] at hvalue
  omega

theorem nanosOf_eq (ds : List Char) :
    nanosOf ds = Nat.ofDigitChars 10 ((ds ++ List.replicate 9 '0').take 9) 0 := by
  simp [nanosOf, Nat.ofDigitChars_eq_foldl, Nat.mul_comm]

/-- Three digits of a fraction are milliseconds. -/
theorem fraction?_padded {n : Nat} (h : n < 1000) {c : Char} (hc : c.isDigit = false)
    (rest : List Char) :
    fraction? ('.' :: ((padded 3 n).toList ++ c :: rest)) = some (n * 1000000, c :: rest) := by
  have hdigits : ∀ c ∈ (padded 3 n).toList, c.isDigit = true := fun _ => isDigit_of_mem_padded
  have hvalue := ofDigitChars_padded 3 n
  have hlen := length_padded (show 0 < 3 by decide) h
  generalize (padded 3 n).toList = cs at hdigits hvalue hlen ⊢
  have htake : (cs ++ c :: rest).takeWhile Char.isDigit = cs := by
    rw [List.takeWhile_append_of_pos hdigits, List.takeWhile_cons_of_neg (by simp [hc]),
      List.append_nil]
  have hdrop : (cs ++ c :: rest).dropWhile Char.isDigit = c :: rest := by
    rw [List.dropWhile_append_of_pos hdigits, List.dropWhile_cons_of_neg (by simp [hc])]
  -- nine digits are taken, six of them filled up with zeros
  have hnanos : nanosOf cs = n * 1000000 := by
    have hnine : (cs ++ List.replicate 9 '0').take 9 = cs ++ List.replicate 6 '0' := by
      rw [List.take_append, List.take_of_length_le (by omega), hlen]
      rfl
    rw [nanosOf_eq, hnine, Nat.ofDigitChars_append, hvalue, Nat.ofDigitChars_replicate_zero]
    omega
  rw [fraction?, htake, hdrop]
  cases cs with
  | nil => cases hlen
  | cons a more =>
      show some (nanosOf (a :: more), c :: rest) = _
      rw [hnanos]

/-! ## §3. The stamp. -/

/-- A date from its four pairs of digits. -/
theorem date?_of_pairs {cs left months days rest : List Char} {century year month day : Nat}
    (hcentury : twoDigits? cs = some (century, left))
    (hyear : twoDigits? left = some (year, '-' :: months))
    (hmonth : twoDigits? months = some (month, '-' :: days))
    (hday : twoDigits? days = some (day, rest)) :
    date? cs = if (⟨century * 100 + year, month, day⟩ : Date).isValid
      then some (⟨century * 100 + year, month, day⟩, rest) else none := by
  simp only [date?, hcentury, hyear, hmonth, hday, Option.bind_eq_bind, Option.bind_some, char?,
    if_true]
  rfl

/-- A time from its three pairs of digits. -/
theorem time?_of_pairs {cs minutes seconds rest : List Char} {h m s : Nat}
    (hhours : twoDigits? cs = some (h, ':' :: minutes))
    (hminutes : twoDigits? minutes = some (m, ':' :: seconds))
    (hseconds : twoDigits? seconds = some (s, rest)) (hh : h < 24) (hm : m < 60) (hs : s ≤ 60) :
    time? cs = some ((h, m, s), rest) := by
  simp only [time?, hhours, hminutes, hseconds, Option.bind_eq_bind, Option.bind_some, char?,
    if_true]
  rw [if_pos ⟨hh, hm, hs⟩]
  rfl

theorem date?_of_sign {sign : Char} (h : sign.isDigit = false) (cs : List Char) :
    date? (sign :: cs) = none := by
  have hsign : digit? sign = none := if_neg (by simp [h])
  have hpair : twoDigits? (sign :: cs) = none := by
    cases cs with
    | nil => rfl
    | cons c rest =>
        rw [twoDigits?, hsign]
        rfl
  rw [date?, hpair]
  rfl

/-- **A date is read back** where its year has no sign, and is none otherwise. -/
theorem date?_text {d : Date} (hvalid : d.isValid = true) (hmonth : d.month < 100)
    (hday : d.day < 100) (rest : List Char) :
    date? ((Instant.yearText d.year).toList ++ '-' ::
      ((padded 2 d.month).toList ++ '-' :: ((padded 2 d.day).toList ++ rest))) =
        if 0 ≤ d.year ∧ d.year ≤ 9999 then some (d, rest) else none := by
  by_cases hyear : 0 ≤ d.year ∧ d.year ≤ 9999
  · obtain ⟨century, year, left, hcentury, hrest, hsum⟩ :=
      twoDigits?_padded_four (n := d.year.toNat) (by omega) ('-' ::
        ((padded 2 d.month).toList ++ '-' :: ((padded 2 d.day).toList ++ rest)))
    have hdate : (⟨(century : Int) * 100 + year, d.month, d.day⟩ : Date) = d := by
      have hvalue : (century : Int) * 100 + year = d.year := by omega
      rw [hvalue]
    have hread := date?_of_pairs hcentury hrest (twoDigits?_padded hmonth _)
      (twoDigits?_padded hday rest)
    rw [hdate, if_pos hvalid] at hread
    rw [Instant.yearText, if_pos hyear, if_pos hyear, hread]
  · -- a sign is no digit
    have hminus : "-".toList = ['-'] := rfl
    have hplus : "+".toList = ['+'] := rfl
    rw [Instant.yearText, if_neg hyear, if_neg hyear, String.toList_append]
    split
    · rw [hminus]
      exact date?_of_sign rfl _
    · rw [hplus]
      exact date?_of_sign rfl _

end Rfc3339

namespace Instant

variable (t : Instant)

theorem day_milliOfDay : t.millis = t.day * 86400000 + t.milliOfDay ∧ t.milliOfDay < 86400000 := by
  have hday : t.day = t.millis / 86400000 := Int.fdiv_eq_ediv_of_nonneg t.millis (by decide)
  unfold milliOfDay
  omega

theorem toList_timeText : t.timeText.toList = (padded 2 (t.milliOfDay / 1000 / 3600)).toList ++
    ':' :: ((padded 2 (t.milliOfDay / 1000 / 60 % 60)).toList ++
      ':' :: (padded 2 (t.milliOfDay / 1000 % 60)).toList) := by
  have hcolon : ":".toList = [':'] := rfl
  simp only [timeText, String.toList_append, hcolon, List.append_assoc, List.cons_append,
    List.nil_append]

theorem toList_stamp : t.stamp.toList = (yearText (Date.ofDayNumber t.day).year).toList ++
    '-' :: ((padded 2 (Date.ofDayNumber t.day).month).toList ++
      '-' :: ((padded 2 (Date.ofDayNumber t.day).day).toList ++
        'T' :: ((padded 2 (t.milliOfDay / 1000 / 3600)).toList ++
          ':' :: ((padded 2 (t.milliOfDay / 1000 / 60 % 60)).toList ++
            ':' :: ((padded 2 (t.milliOfDay / 1000 % 60)).toList ++
              '.' :: ((padded 3 (t.milliOfDay % 1000)).toList ++ ['Z'])))))) := by
  have hhyphen : "-".toList = ['-'] := rfl
  have hmark : "T".toList = ['T'] := rfl
  have hpoint : ".".toList = ['.'] := rfl
  have hzone : "Z".toList = ['Z'] := rfl
  simp only [stamp, String.toList_append, toList_timeText, hhyphen, hmark, hpoint, hzone,
    List.append_assoc, List.cons_append, List.nil_append]

/-- The moment of the reading. -/
def moment : Moment :=
  ⟨t.day * 86400 + (t.milliOfDay / 1000 : Nat), t.milliOfDay % 1000 * 1000000⟩

/-- The reading stands in a year of four digits. -/
def IsCommon : Prop :=
  0 ≤ (Date.ofDayNumber t.day).year ∧ (Date.ofDayNumber t.day).year ≤ 9999

instance : Decidable t.IsCommon := inferInstanceAs (Decidable (_ ∧ _))

/-- Moments keep the order of the readings. -/
theorem before_moment {a b : Instant} : a.moment.before b.moment = true ↔ a.millis < b.millis := by
  obtain ⟨ha, ha'⟩ := a.day_milliOfDay
  obtain ⟨hb, hb'⟩ := b.day_milliOfDay
  have hseconds : ∀ t : Instant, t.moment.seconds = t.day * 86400 + (t.milliOfDay / 1000 : Nat) :=
    fun _ => rfl
  have hnanos : ∀ t : Instant, t.moment.nanos = t.milliOfDay % 1000 * 1000000 := fun _ => rfl
  -- compare day by day, then within the day
  simp only [Moment.before, Bool.or_eq_true, Bool.and_eq_true, decide_eq_true_eq, beq_iff_eq,
    hseconds, hnanos]
  omega

/-- **What moment a stamp names**: the reading itself in the years 0 to 9999,
and none outside. -/
theorem moment?_stamp : Rfc3339.moment? t.stamp = if t.IsCommon then some t.moment else none := by
  obtain ⟨-, hday⟩ := t.day_milliOfDay
  obtain ⟨hnumber, hmonth, hdate⟩ := Date.dayNumber_ofDayNumber t.day
  rw [Rfc3339.moment?, toList_stamp,
    Rfc3339.date?_text (Date.isValid_ofDayNumber t.day) hmonth hdate]
  by_cases hcommon : t.IsCommon
  · have htime := Rfc3339.time?_of_pairs
      (Rfc3339.twoDigits?_padded (n := t.milliOfDay / 1000 / 3600) (by omega) _)
      (Rfc3339.twoDigits?_padded (n := t.milliOfDay / 1000 / 60 % 60) (by omega) _)
      (Rfc3339.twoDigits?_padded (n := t.milliOfDay / 1000 % 60) (by omega)
        ('.' :: ((padded 3 (t.milliOfDay % 1000)).toList ++ ['Z'])))
      (by omega) (by omega) (by omega)
    have hfraction := Rfc3339.fraction?_padded (n := t.milliOfDay % 1000) (by omega)
      (c := 'Z') rfl []
    have hzone : Rfc3339.offset? ['Z'] = some (0, []) := rfl
    have hmark : ∀ cs, Rfc3339.separator? ('T' :: cs) = some cs := fun _ => rfl
    have hyear : 0 ≤ (Date.ofDayNumber t.day).year ∧ (Date.ofDayNumber t.day).year ≤ 9999 := hcommon
    rw [if_pos hcommon, if_pos hyear]
    simp only [Option.bind_eq_bind, Option.bind_some, hmark, htime, hfraction, hzone]
    -- hours, minutes and seconds make up the second of the day again
    have hseconds : t.milliOfDay / 1000 / 3600 * 3600 + t.milliOfDay / 1000 / 60 % 60 * 60
        + min (t.milliOfDay / 1000 % 60) 59 = t.milliOfDay / 1000 := by
      omega
    have hleap : ¬ t.milliOfDay / 1000 % 60 = 60 := by omega
    rw [if_neg (by simp), hnumber, hseconds, if_neg hleap, Int.sub_zero, Nat.add_zero]
    rfl
  · have hyear : ¬ (0 ≤ (Date.ofDayNumber t.day).year ∧ (Date.ofDayNumber t.day).year ≤ 9999) :=
      hcommon
    rw [if_neg hcommon, if_neg hyear]
    rfl

end Instant

/-- **No later reading has an earlier stamp.** -/
theorem isBefore_stamp_of_le {a b : Instant} (h : a.millis ≤ b.millis) :
    Rfc3339.isBefore b.stamp a.stamp = false := by
  rw [Rfc3339.isBefore, b.moment?_stamp, a.moment?_stamp]
  by_cases hcommon : b.IsCommon ∧ a.IsCommon
  · rw [if_pos hcommon.1, if_pos hcommon.2, ← Bool.not_eq_true]
    intro hbefore
    exact absurd (Instant.before_moment.mp hbefore) (by omega)
  · -- one of the two stamps names no moment
    by_cases hb : b.IsCommon
    · rw [if_pos hb, if_neg fun ha => hcommon ⟨hb, ha⟩]
    · rw [if_neg hb]

end Dashboard.Time
