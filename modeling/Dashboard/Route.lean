/-
  Dashboard.Route
  ───────────────
  The part of the dashboard's state that lives in the URL query: the page,
  focus mode and the filters.

  Of a repeated name the last pair counts; unknown names are passed over.
-/
import Dashboard.Filters
import Dashboard.Text.FormEncoding
import Dashboard.Url.Resolution

namespace Dashboard

open Text

/-- The state in the URL. -/
structure Route where
  pageId : Option String
  focus : Bool
  filters : Filters
  deriving DecidableEq, Repr

namespace Route

/-- Nothing set. -/
def empty : Route := ⟨none, false, .none⟩

/-- The path that the dashboard is mounted at. -/
def mountPath : String := "/dashboard"

/-- The value of the last pair of a name. -/
def lastValue? (pairs : List (String × String)) (name : String) : Option String :=
  (pairs.reverse.find? fun p => p.1 == name).map (·.2)

/-- The route of a list of pairs. -/
def ofPairs (pairs : List (String × String)) : Route :=
  ⟨normalizeValue (lastValue? pairs "pageId"),
    (lastValue? pairs "focus").map trim == some "1",
    .ofRaw (lastValue? pairs "venue") (lastValue? pairs "bot")
      (lastValue? pairs "symbol") (lastValue? pairs "range")⟩

/-- A query without a leading question mark. -/
def withoutMark (query : String) : String :=
  match query.toList with
  | '?' :: rest => String.ofList rest
  | _ => query

/-- The route of a query, with or without a leading question mark. -/
def ofQuery (query : String) : Route := ofPairs (FormEncoding.decode (withoutMark query))

/-- The URL that a URL without a scheme is relative to. -/
def localBase : Url.Address :=
  ⟨"http".toList, some ⟨none, some (.name "localhost".toList), none⟩, ['/'], none, none⟩

/-- The URL of a text, relative to the local host where it has no scheme. -/
def resolveUrl (s : String) : Except Url.UrlError Url.Address :=
  match Url.parse s with
  | .error .noBase => Url.join localBase s
  | r => r

/-- The route of a URL's query. -/
def ofUrl (s : String) : Except Url.UrlError Route :=
  (resolveUrl s).map fun u => ofQuery (String.ofList (u.query.getD []))

/-- What is set, as pairs. -/
def toPairs (r : Route) : List (String × String) :=
  [("pageId", r.pageId), ("focus", if r.focus then some "1" else none),
    ("venue", r.filters.venue), ("bot", r.filters.bot), ("symbol", r.filters.symbol),
    ("range", r.filters.timeRange.map TimeRange.token)].filterMap fun (name, value) =>
      value.map fun value => (name, value)

/-- The query of a route; empty when nothing is set. -/
def toQuery (r : Route) : String := FormEncoding.encode r.toPairs

/-- The URL of a route. -/
def toUrl (r : Route) : String :=
  let query := r.toQuery
  if query = "" then mountPath else s!"{mountPath}?{query}"

end Route
end Dashboard
