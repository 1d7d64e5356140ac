/-
  Dashboard.Proofs.Route
  ──────────────────────
  **ROUTES SURVIVE THEIR URL.**

  A route whose texts are trimmed (`Normal`) is read back from its query, with or
  without a question mark, and from its URL: the query is form text, and neither
  the reader of URLs nor its escaping touches a character of form text.  What is
  read from a query is such a route, for it is read pair by pair, and each pair
  sets its field to what is left of its value.

  Main results:
    ofQuery_append      — a query is read pair by pair
    ofQuery_toQuery     — what is read back from the query of any route
    ofUrl_toUrl         — a URL is read as its query is
    routes_survive_urls — **normal routes survive, and what is read is normal**
-/
import Dashboard.Proofs.Text.FormEncoding
import Dashboard.Proofs.Text.Trimmed
import Dashboard.Proofs.Url.Server
import Dashboard.Route

namespace Dashboard

/-! ## §1. Normal values. -/

open Text

/-- What is normalized is trimmed. -/
theorem trimmed_of_normalizeValue {raw : Option String} {s : String}
    (h : normalizeValue raw = some s) : Trimmed s := by
  obtain ⟨t, -, ht⟩ := Option.bind_eq_some_iff.mp h
  obtain ⟨hfilled, rfl⟩ := nonBlank?_eq_some_iff.mp ht
  exact trimmed_trim hfilled

/-- What is trimmed is not changed. -/
theorem normalizeValue_of_trimmed {v : Option String} (h : ∀ s ∈ v, Trimmed s) :
    normalizeValue v = v := by
  cases v with
  | none => rfl
  | some s =>
    exact nonBlank?_eq_some_iff.mpr (trimmed_iff.mp (h s rfl))

/-- A time range is known by its token. -/
theorem TimeRange.ofToken?_token (r : TimeRange) : ofToken? r.token = some r := by
  cases r <;> decide +kernel

namespace Route

/-! ## §2. Pairs. -/

variable {name value : String} {pairs : List (String × String)}

/-- The later pairs come first. -/
theorem lastValue?_append (l l' : List (String × String)) (name : String) :
    lastValue? (l ++ l') name = (lastValue? l' name).or (lastValue? l name) := by
  unfold lastValue?
  rw [List.reverse_append, List.find?_append, Option.map_or]

theorem lastValue?_singleton (p : String × String) (name : String) :
    lastValue? [p] name = if p.1 = name then some p.2 else none := by
  unfold lastValue?
  rw [List.reverse_singleton, List.find?_singleton]
  by_cases h : p.1 = name
  · simp [h]
  · simp [h]

/-- A route with one more pair. -/
def assign (r : Route) (name value : String) : Route :=
  if name = "pageId" then { r with pageId := nonBlank? value }
  else if name = "focus" then { r with focus := trim value == "1" }
  else if name = "venue" then { r with filters := { r.filters with venue := nonBlank? value } }
  else if name = "bot" then { r with filters := { r.filters with bot := nonBlank? value } }
  else if name = "symbol" then { r with filters := { r.filters with symbol := nonBlank? value } }
  else if name = "range" then
    { r with filters := { r.filters with timeRange := TimeRange.ofToken? value } }
  else r

theorem ofPairs_concat (pairs : List (String × String)) (name value : String) :
    ofPairs (pairs ++ [(name, value)]) = (ofPairs pairs).assign name value := by
  have hlast : ∀ field, lastValue? (pairs ++ [(name, value)]) field =
      if name = field then some value else lastValue? pairs field := by
    intro field
    rw [lastValue?_append, lastValue?_singleton]
    split <;> rfl
  -- a pair of another name changes none of the six fields
  unfold ofPairs assign
  simp only [hlast]
  split_ifs <;> simp_all <;> rfl

/-- Reading more pairs assigns their values on top. -/
theorem ofPairs_append (pairs more : List (String × String)) :
    ofPairs (pairs ++ more) = more.foldl (fun r p => r.assign p.1 p.2) (ofPairs pairs) := by
  induction more generalizing pairs with
  | nil => rw [List.append_nil, List.foldl_nil]
  | cons p rest ih =>
    rw [List.append_cons, ih, ofPairs_concat, List.foldl_cons]

/-! ## §3. Fields. -/

/-- The pairs of the fields that have a value. -/
def pairsOf (fields : List (String × Option String)) : List (String × String) :=
  fields.filterMap fun f => f.2.map fun value => (f.1, value)

theorem lastValue?_pairsOf_singleton (f : String × Option String) (name : String) :
    lastValue? (pairsOf [f]) name = if f.1 = name then f.2 else none := by
  obtain ⟨field, value⟩ := f
  cases value with
  | none => exact (ite_self none).symm
  | some value => exact lastValue?_singleton (field, value) name

/-- A field before others counts where they do not have its name. -/
theorem lastValue?_pairsOf_cons (f : String × Option String)
    (rest : List (String × Option String)) (name : String) :
    lastValue? (pairsOf (f :: rest)) name =
      (lastValue? (pairsOf rest) name).or (if f.1 = name then f.2 else none) := by
  have hcons : pairsOf (f :: rest) = pairsOf [f] ++ pairsOf rest :=
    List.filterMap_append (l := [f])
  rw [hcons, lastValue?_append, lastValue?_pairsOf_singleton]

/-- A name that no field has is not written. -/
theorem lastValue?_pairsOf_of_not_mem {fields : List (String × Option String)}
    (h : name ∉ fields.map (·.1)) : lastValue? (pairsOf fields) name = none := by
  induction fields with
  | nil => rfl
  | cons f rest ih =>
    rw [List.map_cons, List.mem_cons, not_or] at h
    rw [lastValue?_pairsOf_cons, ih h.2, if_neg (Ne.symm h.1)]
    rfl

/-- Where every name is there once, each field is found. -/
theorem lastValue?_pairsOf {fields : List (String × Option String)}
    (hnames : (fields.map (·.1)).Nodup) {value : Option String} (h : (name, value) ∈ fields) :
    lastValue? (pairsOf fields) name = value := by
  induction fields with
  | nil => exact nomatch h
  | cons f rest ih =>
    rw [List.map_cons, List.nodup_cons] at hnames
    rw [lastValue?_pairsOf_cons]
    rcases List.mem_cons.mp h with rfl | h
    · rw [lastValue?_pairsOf_of_not_mem hnames.1, if_pos rfl]
      rfl
    · have hne : f.1 ≠ name := by
        rintro rfl
        exact hnames.1 (List.mem_map.mpr ⟨_, h, rfl⟩)
      rw [ih hnames.2 h, if_neg hne, Option.or_none]

/-- A route with its texts trimmed. -/
def normalized (r : Route) : Route :=
  ⟨normalizeValue r.pageId, r.focus,
    ⟨normalizeValue r.filters.venue, normalizeValue r.filters.bot,
      normalizeValue r.filters.symbol, r.filters.timeRange⟩⟩

/-- What a route says, field by field. -/
def fields (r : Route) : List (String × Option String) :=
  [("pageId", r.pageId), ("focus", if r.focus then some "1" else none),
    ("venue", r.filters.venue), ("bot", r.filters.bot), ("symbol", r.filters.symbol),
    ("range", r.filters.timeRange.map TimeRange.token)]

/-- Each field of a route is written under its name. -/
theorem lastValue?_toPairs {r : Route} {value : Option String} (h : (name, value) ∈ r.fields) :
    lastValue? r.toPairs name = value := by
  have hnames : (r.fields.map (·.1)).Nodup := by
    show ["pageId", "focus", "venue", "bot", "symbol", "range"].Nodup
    decide
  exact lastValue?_pairsOf hnames h

/-- What is read back from the pairs of a route. -/
theorem ofPairs_toPairs (r : Route) : ofPairs r.toPairs = r.normalized := by
  have hpage : lastValue? r.toPairs "pageId" = r.pageId := lastValue?_toPairs (by simp [fields])
  have hflag : lastValue? r.toPairs "focus" = if r.focus then some "1" else none :=
    lastValue?_toPairs (by simp [fields])
  have hvenue : lastValue? r.toPairs "venue" = r.filters.venue :=
    lastValue?_toPairs (by simp [fields])
  have hbot : lastValue? r.toPairs "bot" = r.filters.bot := lastValue?_toPairs (by simp [fields])
  have hsymbol : lastValue? r.toPairs "symbol" = r.filters.symbol :=
    lastValue?_toPairs (by simp [fields])
  have htoken : lastValue? r.toPairs "range" = r.filters.timeRange.map TimeRange.token :=
    lastValue?_toPairs (by simp [fields])
  have hfocus : ((if r.focus then some "1" else none).map trim == some "1") = r.focus := by
    cases r.focus <;> decide +kernel
  have hrange : (r.filters.timeRange.map TimeRange.token).bind TimeRange.ofToken? =
      r.filters.timeRange := by
    cases r.filters.timeRange with
    | none => rfl
    | some range => exact range.ofToken?_token
  unfold ofPairs normalized Filters.ofRaw
  rw [hpage, hflag, hvenue, hbot, hsymbol, htoken, hfocus, hrange]

/-- A route whose texts are trimmed. -/
structure Normal (r : Route) : Prop where
  pageId : ∀ s ∈ r.pageId, Trimmed s
  venue : ∀ s ∈ r.filters.venue, Trimmed s
  bot : ∀ s ∈ r.filters.bot, Trimmed s
  symbol : ∀ s ∈ r.filters.symbol, Trimmed s

/-- A normal route is not changed. -/
theorem Normal.normalized_eq {r : Route} (h : r.Normal) : r.normalized = r := by
  unfold normalized
  rw [normalizeValue_of_trimmed h.pageId, normalizeValue_of_trimmed h.venue,
    normalizeValue_of_trimmed h.bot, normalizeValue_of_trimmed h.symbol]

/-- A route that was read is normal. -/
theorem normal_ofPairs (pairs : List (String × String)) : (ofPairs pairs).Normal where
  pageId := fun _ h => trimmed_of_normalizeValue h
  venue := fun _ h => trimmed_of_normalizeValue h
  bot := fun _ h => trimmed_of_normalizeValue h
  symbol := fun _ h => trimmed_of_normalizeValue h

/-! ## §4. Queries. -/

theorem withoutMark_mark (q : String) : withoutMark ("?" ++ q) = q := by
  have hlist : ("?" ++ q).toList = '?' :: q.toList := String.toList_append
  unfold withoutMark
  rw [hlist]
  exact String.ofList_toList

/-- Only a mark in front is taken off. -/
theorem withoutMark_of_head? {q : String} (h : q.toList.head? ≠ some '?') : withoutMark q = q := by
  unfold withoutMark
  split
  next rest heq => exact absurd (heq ▸ rfl) h
  next => rfl

/-- A mark is only at the front of a query. -/
theorem withoutMark_append (q t : String) :
    withoutMark (q ++ "&" ++ t) = withoutMark q ++ "&" ++ t := by
  by_cases h : q.toList.head? = some '?'
  · obtain ⟨rest, hrest⟩ := List.head?_eq_some_iff.mp h
    obtain rfl : q = "?" ++ String.ofList rest := by
      rw [← String.toList_inj, hrest]
      simp
    rw [String.append_assoc, String.append_assoc, withoutMark_mark, withoutMark_mark,
      String.append_assoc]
  · rw [withoutMark_of_head? h, withoutMark_of_head?]
    intro hjoined
    rw [String.toList_append, String.toList_append, List.append_assoc, List.head?_append] at hjoined
    cases hq : q.toList.head? with
    | none =>
      rw [hq] at hjoined
      exact absurd (Option.some.inj hjoined) (by decide)
    | some c =>
      rw [hq] at hjoined h
      exact h hjoined

/-- **A query is read pair by pair.** -/
theorem ofQuery_append (q t : String) : ofQuery (q ++ "&" ++ t) =
    (FormEncoding.decode t).foldl (fun r p => r.assign p.1 p.2) (ofQuery q) := by
  unfold ofQuery
  rw [withoutMark_append, FormEncoding.decode_append, ofPairs_append]

/-- A query is written in characters of forms. -/
theorem isFormChar_toQuery (r : Route) :
    ∀ c ∈ r.toQuery.toList, FormEncoding.isFormChar c = true := by
  intro c hc
  unfold toQuery FormEncoding.encode at hc
  rw [String.toList_ofList] at hc
  exact FormEncoding.isFormChar_encodeList _ c hc

theorem withoutMark_toQuery (r : Route) : withoutMark r.toQuery = r.toQuery := by
  refine withoutMark_of_head? fun hmark => ?_
  have hform := isFormChar_toQuery r _ (List.mem_of_mem_head? hmark)
  exact absurd hform (by decide)

/-- **What is read back from the query of a route** is the route with its texts
trimmed. -/
theorem ofQuery_toQuery (r : Route) : ofQuery r.toQuery = r.normalized := by
  unfold ofQuery
  rw [withoutMark_toQuery, toQuery, FormEncoding.decode_encode, ofPairs_toPairs]

/-- With a mark in front, a query is read back. -/
theorem ofQuery_mark_toQuery (r : Route) : ofQuery ("?" ++ r.toQuery) = r.normalized := by
  rw [← ofQuery_toQuery]
  unfold ofQuery
  rw [withoutMark_mark, withoutMark_toQuery]

/-! ## §5. URLs. -/

open Url

/-- Form text is plain, and no character of it is escaped in a query. -/
theorem plain_of_isFormChar {c : Char} (h : FormEncoding.isFormChar c = true) :
    isPlain c = true ∧ escapedInQuery .web c = false ∧ c ≠ '#' := by
  refine forall_ascii (p := fun c => FormEncoding.isFormChar c = true →
    isPlain c = true ∧ escapedInQuery .web c = false ∧ c ≠ '#') ?_ (FormEncoding.isFormChar_lt h) h
  decide +kernel

/-- A query needs no further escapes in a URL. -/
theorem encode_query {query : List Char}
    (h : ∀ c ∈ query, FormEncoding.isFormChar c = true) :
    Percent.encode (escapedInQuery .web) query = query := by
  induction query with
  | nil => rfl
  | cons c rest ih =>
    obtain ⟨-, hplain, -⟩ := plain_of_isFormChar (h c List.mem_cons_self)
    unfold Percent.encode at ih ⊢
    rw [List.flatMap_cons, ih fun d hd => h d (List.mem_cons_of_mem c hd), Percent.encodeChar,
      hplain]
    rfl

/-- A text without a scheme is read beside the local host. -/
theorem resolveUrl_of_plain {s : String} (hplain : ∀ c ∈ s.toList, isPlain c = true)
    (hfront : s.toList.head? = some '/') : resolveUrl s = resolveRelative localBase s.toList := by
  have hcolon : ':' ∉ s.toList := fun hmem => absurd (hplain _ hmem) (by decide)
  have hparse : Url.parse s = .error .noBase := by
    unfold Url.parse resolveCleaned
    rw [cleaned_of_plain hplain, splitScheme_of_no_colon hcolon]
  unfold resolveUrl
  rw [hparse]
  show Url.join localBase s = _
  unfold Url.join resolveCleaned
  rw [cleaned_of_plain hplain, splitScheme_of_no_colon hcolon]
  -- the text begins with a slash, so it is no fragment
  obtain ⟨rest, hrest⟩ := List.head?_eq_some_iff.mp hfront
  rw [hrest]
  rfl

/-- The mount path has a query, which is read without a change. -/
theorem resolveRelative_query {query : List Char}
    (h : ∀ c ∈ query, FormEncoding.isFormChar c = true) :
    ∃ u, resolveRelative localBase (mountPath.toList ++ '?' :: query) = .ok u ∧
      u.query = some query := by
  have hfragment : ∀ c ∈ query, decide (c ≠ '#') = true :=
    fun c hc => decide_eq_true (plain_of_isFormChar (h c hc)).2.2
  refine ⟨_, rfl, ?_⟩
  show some (Percent.encode (escapedInQuery .web) (query.takeWhile (· ≠ '#'))) = _
  rw [List.takeWhile_eq_self_iff.mpr hfragment, encode_query h]

/-- **A URL is read as its query is.** -/
theorem ofUrl_toUrl (r : Route) : ofUrl r.toUrl = .ok (ofQuery r.toQuery) := by
  unfold toUrl
  dsimp only
  split
  next hempty =>
    rw [hempty]
    decide +kernel
  next =>
    have htext : (s!"{mountPath}?{r.toQuery}").toList =
        mountPath.toList ++ '?' :: r.toQuery.toList := by
      show (mountPath ++ "?" ++ r.toQuery).toList = _
      simp
    have hplain : ∀ c ∈ (s!"{mountPath}?{r.toQuery}").toList, isPlain c = true := by
      have hmount : (mountPath.toList ++ ['?']).all isPlain = true := by decide +kernel
      intro c hc
      rw [htext, List.append_cons] at hc
      rcases List.mem_append.mp hc with hfront | hquery
      · exact List.all_eq_true.mp hmount c hfront
      · exact (plain_of_isFormChar (isFormChar_toQuery r c hquery)).1
    obtain ⟨u, hu, hquery⟩ := resolveRelative_query (isFormChar_toQuery r)
    unfold ofUrl
    rw [resolveUrl_of_plain hplain (by rw [htext]; rfl), htext, hu]
    show Except.ok (ofQuery (String.ofList (u.query.getD []))) = _
    rw [hquery]
    exact congrArg (fun q => Except.ok (ofQuery q)) String.ofList_toList

/-! ## §6. Every route. -/

/-- The canonical form of a query. -/
def canonical (q : String) : String := (ofQuery q).toQuery

/-- The canonical form of a query says the same. -/
theorem ofQuery_canonical (q : String) : ofQuery (canonical q) = ofQuery q := by
  unfold canonical
  rw [ofQuery_toQuery]
  exact (normal_ofPairs _).normalized_eq

/-- **Routes survive their URL.**

* A normal route is read back from its query, with or without a question mark,
  and from its URL.
* What is read from a query is a normal route, and writing it gives a canonical
  form: it is read as the query is, and is its own canonical form.
* One more pair sets the field of its name to what its value gives, whatever the
  query said of that field, and leaves the others alone.
* A query is written as form text, octet by octet, and every list of pairs is
  read back from form text. -/
theorem routes_survive_urls :
    (∀ r : Route, r.Normal →
      ofQuery r.toQuery = r ∧ ofQuery ("?" ++ r.toQuery) = r ∧ ofUrl r.toUrl = .ok r) ∧
    (∀ q, (ofQuery q).Normal ∧ ofQuery (canonical q) = ofQuery q ∧
      canonical (canonical q) = canonical q) ∧
    (∀ q t name value, FormEncoding.decode t = [(name, value)] →
      ofQuery (q ++ "&" ++ t) = (ofQuery q).assign name value) ∧
    (∀ r : Route, r.toQuery = FormEncoding.standardText r.toPairs) ∧
    (∀ pairs, FormEncoding.decode (FormEncoding.standardText pairs) = pairs) := by
  refine ⟨fun r hr => ⟨?_, ?_, ?_⟩, fun q => ⟨normal_ofPairs _, ofQuery_canonical q, ?_⟩,
    fun q t name value ht => ?_, fun r => FormEncoding.encode_eq _, fun pairs => ?_⟩
  · rw [ofQuery_toQuery, hr.normalized_eq]
  · rw [ofQuery_mark_toQuery, hr.normalized_eq]
  · rw [ofUrl_toUrl, ofQuery_toQuery, hr.normalized_eq]
  · exact congrArg toQuery (ofQuery_canonical q)
  · rw [ofQuery_append, ht, List.foldl_cons, List.foldl_nil]
  · rw [← FormEncoding.encode_eq, FormEncoding.decode_encode]

/-- A route with marks, a blank and letters outside ASCII in its texts. -/
def markedRoute : Route := ⟨some "a&b=c d+é%#", true, ⟨none, some "?", none, some .oneDay⟩⟩

/-- It survives, and another pair takes the place of its page. -/
theorem markedRoute_survives :
    markedRoute.toQuery = "pageId=a%26b%3Dc+d%2B%C3%A9%25%23&focus=1&bot=%3F&range=1d" ∧
      ofUrl markedRoute.toUrl = .ok markedRoute ∧
      ofQuery (markedRoute.toQuery ++ "&" ++ "pageId=+ops") =
        { markedRoute with pageId := some "ops" } := by
  obtain ⟨hsurvives, -, hlast, -, -⟩ := routes_survive_urls
  have hnormal : markedRoute.Normal := by
    refine ⟨?_, nofun, ?_, nofun⟩
    all_goals
      rintro s ⟨⟩
      exact trimmed_iff.mpr (by decide +kernel)
  obtain ⟨hquery, -, hurl⟩ := hsurvives markedRoute hnormal
  refine ⟨by decide +kernel, hurl, ?_⟩
  rw [hlast _ _ "pageId" " ops" (by decide +kernel), hquery]
  decide +kernel

end Route
end Dashboard
