/-
  Dashboard.Filters
  ─────────────────
  The filters that every widget of a page shares, and their stored form.

  A filter value is trimmed and is absent when nothing is left.  The stored
  record writes absent values as empty texts and is read tolerantly: what is
  no text, or no known time range, is absent.
-/
import Dashboard.Json.Reader
import Dashboard.Json.Printer
import Dashboard.Text.Blank

namespace Dashboard

open Json

/-! ## §1. Time ranges. -/

/-- How far back a widget looks. -/
inductive TimeRange where
  | fifteenMinutes
  | oneHour
  | oneDay
  | sevenDays
  deriving DecidableEq, Repr

namespace TimeRange

/-- The token of a range. -/
def token : TimeRange → String
  | .fifteenMinutes => "15m"
  | .oneHour => "1h"
  | .oneDay => "1d"
  | .sevenDays => "7d"

/-- The range of a token, blanks around it aside. -/
def ofToken? (raw : String) : Option TimeRange :=
  [fifteenMinutes, oneHour, oneDay, sevenDays].find? fun r => r.token == Text.trim raw

end TimeRange

/-! ## §2. Filters. -/

/-- The shared filters. -/
structure Filters where
  venue : Option String
  bot : Option String
  symbol : Option String
  timeRange : Option TimeRange
  deriving DecidableEq, Repr

/-- A trimmed value; none where nothing is left. -/
def normalizeValue (raw : Option String) : Option String := raw.bind Text.nonBlank?

namespace Filters

/-- No filter. -/
def none : Filters := ⟨.none, .none, .none, .none⟩

/-- Filters from raw values. -/
def ofRaw (venue bot symbol timeRange : Option String) : Filters :=
  ⟨normalizeValue venue, normalizeValue bot, normalizeValue symbol,
    timeRange.bind TimeRange.ofToken?⟩

def isEmpty (f : Filters) : Bool :=
  f.venue.isNone && f.bot.isNone && f.symbol.isNone && f.timeRange.isNone

/-- Field by field the value of `above`, or the one below it. -/
def mergedWith (f above : Filters) : Filters :=
  ⟨above.venue.or f.venue, above.bot.or f.bot, above.symbol.or f.symbol,
    above.timeRange.or f.timeRange⟩

/-! ## §3. The stored record. -/

/-- The stored record. -/
def toRecord (f : Filters) : Value :=
  .object
    [("bot", .text (f.bot.getD "")), ("symbol", .text (f.symbol.getD "")),
      ("timeRange", .text ((f.timeRange.map TimeRange.token).getD "")),
      ("venue", .text (f.venue.getD ""))]

/-- The text of the stored record. -/
def toStored (f : Filters) : String := f.toRecord.compact

/-- Filters from a stored record. -/
def ofRecord (v : Value) : Filters :=
  let field (key : String) : Option String := (v.get? key).bind Value.text?
  ofRaw (field "venue") (field "bot") (field "symbol") (field "timeRange")

/-- Filters from the text of a stored record; none from what is no JSON. -/
def ofStored (text : String) : Filters :=
  match readNormal text with
  | some v => ofRecord v
  | .none => none

end Filters
end Dashboard
