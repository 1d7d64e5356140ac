/-
  Dashboard.Time.Millis
  ─────────────────────
  Times and time spans of polling, in milliseconds.

  A time is a number of milliseconds held within 64 bits with sign; spans
  between two times saturate there.  A length of time may be finer, and is
  compared with such a span by its whole milliseconds.
-/

namespace Dashboard.Time

/-- The greatest 64-bit time. -/
def maxMillis : Int := 0x7FFFFFFFFFFFFFFF

/-- The least 64-bit time. -/
def minMillis : Int := -0x8000000000000000

/-- A number held within 64 bits. -/
def hold (n : Int) : Int := max minMillis (min n maxMillis)

/-- The time from `since` to `now`, held within 64 bits. -/
def elapsed (since now : Int) : Int := hold (now - since)

/-- A span as a 64-bit time, at most the greatest one. -/
def spanLimit (span : Nat) : Int := min (span : Int) maxMillis

/-- A length of time. -/
structure Duration where
  nanos : Nat
  deriving DecidableEq, Repr

namespace Duration

/-- Milliseconds as a length of time. -/
def ofMillis (ms : Nat) : Duration := ⟨ms * 1000000⟩

/-- The whole milliseconds of a length of time. -/
def wholeMillis (d : Duration) : Nat := d.nanos / 1000000

end Duration
end Dashboard.Time
