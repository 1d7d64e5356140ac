/-
  Dashboard.Time.Instant
  ──────────────────────
  A reading of the clock and how it is written.

  Documents carry `Instant.stamp`, the UTC date and time with milliseconds;
  views show `Instant.clock`, the time of day alone.
-/
import Dashboard.Time.Calendar

namespace Dashboard.Time

/-- A clock reading: milliseconds since 1970-01-01T00:00:00Z. -/
structure Instant where
  millis : Int
  deriving DecidableEq, Repr, Inhabited

/-- A number in at least `width` decimal digits. -/
def padded (width n : Nat) : String :=
  let ds := toString n
  String.ofList (List.replicate (width - ds.length) '0') ++ ds

namespace Instant

/-- The whole days before the instant. -/
def day (t : Instant) : Int := Int.fdiv t.millis 86400000

/-- The milliseconds since the day began. -/
def milliOfDay (t : Instant) : Nat := (t.millis - t.day * 86400000).toNat

/-- Four digits for a year from 0 to 9999, else a sign and at least four. -/
def yearText (year : Int) : String :=
  if 0 ≤ year ∧ year ≤ 9999 then padded 4 year.toNat
  else (if year < 0 then "-" else "+") ++ padded 4 year.natAbs

/-- Hours, minutes and seconds of the UTC day. -/
def timeText (t : Instant) : String :=
  let s := t.milliOfDay / 1000
  padded 2 (s / 3600) ++ ":" ++ padded 2 (s / 60 % 60) ++ ":" ++ padded 2 (s % 60)

/-- The UTC date and time with milliseconds, as documents store it. -/
def stamp (t : Instant) : String :=
  let d := Date.ofDayNumber t.day
  yearText d.year ++ "-" ++ padded 2 d.month ++ "-" ++ padded 2 d.day ++ "T"
    ++ t.timeText ++ "." ++ padded 3 (t.milliOfDay % 1000) ++ "Z"

/-- The first and the last year a clock line can show. -/
def clockYears : Int × Int := (-262143, 262142)

/-- The time of day of a view line; dashes for a year out of range. -/
def clock (t : Instant) : String :=
  let year := (Date.ofDayNumber t.day).year
  if clockYears.1 ≤ year ∧ year ≤ clockYears.2 then t.timeText else "--:--:--"

end Instant
end Dashboard.Time
