/-
  Dashboard.Proofs.Url.Server
  ───────────────────────────
  **WHICH SERVER AN ENDPOINT IS ASKED FROM.**

  An endpoint is resolved against the base of its upstream, after the slashes
  at its front are dropped.  That keeps it on the base's server unless it says
  otherwise: by a scheme of its own, or by an authority after two slashes or
  backslashes, which the dropped slashes do not rule out.

  Main results:
    server_resolveCleaned_iff  — where a text leads beside a base of the web
    resolveCleaned_of_absolute — a URL by itself is read as it stands
    resolve_on_server_iff      — when an endpoint stays on the base's server
    endpoints_can_leave        — endpoints that do not
-/
import Dashboard.Poll.Fetch
import Dashboard.Widget.Builtin
import Mathlib.Data.List.Basic

namespace Dashboard

namespace Url

/-! ## §1. Servers. -/

/-- Who is asked for a URL.  A port that is its scheme's own is not told. -/
structure Server where
  scheme : List Char
  host : Option Host
  port : Option Nat
  deriving DecidableEq, Repr

namespace Server

/-- The server of an authority. -/
def ofAuthority (scheme : List Char) (a : Authority) : Server := ⟨scheme, a.host, a.port⟩

/-- The server of a URL. -/
def ofUrl (u : Address) : Server :=
  ⟨u.scheme, u.authority.bind (·.host), u.authority.bind (·.port)⟩

end Server

variable {scheme cs : List Char} {base url : Address}

theorem eq_ok_of_bind {α β : Type} {x : Except UrlError α} {f : α → Except UrlError β} {b : β}
    (h : x >>= f = .ok b) : ∃ a, x = .ok a ∧ f a = .ok b := by
  cases x with
  | error e => exact nomatch h
  | ok a => exact ⟨a, rfl, h⟩

/-- After two slashes the authority decides. -/
theorem readAfterSlashes_eq_ok (h : readAfterSlashes scheme cs = .ok url) :
    ∃ a rest, readAuthority scheme cs = .ok (a, rest) ∧ url.authority = some a ∧
      Server.ofUrl url = .ofAuthority scheme a := by
  obtain ⟨⟨a, rest⟩, ha, h⟩ := eq_ok_of_bind h
  injection h with h
  subst h
  exact ⟨a, rest, ha, rfl, rfl⟩

theorem scheme_readOther (h : readOther scheme cs = .ok url) : url.scheme = scheme := by
  unfold readOther at h
  split at h
  next =>
    obtain ⟨a, rest, -, -, hserver⟩ := readAfterSlashes_eq_ok h
    exact congrArg Server.scheme hserver
  next =>
    injection h with h
    subst h
    rfl
  next =>
    injection h with h
    subst h
    rfl

theorem scheme_readFileHost (h : readFileHost cs = .ok url) : url.scheme = fileScheme := by
  unfold readFileHost at h
  dsimp only at h
  split at h
  all_goals
    obtain ⟨host, -, h⟩ := eq_ok_of_bind h
    injection h with h
    subst h
    rfl

theorem scheme_readFile (h : readFile none cs = .ok url) : url.scheme = fileScheme := by
  unfold readFile at h
  split at h
  next =>
    split at h
    next =>
      split at h
      next => exact scheme_readFileHost h
      next =>
        injection h with h
        subst h
        rfl
    next =>
      injection h with h
      subst h
      rfl
  next =>
    split at h
    all_goals
      injection h with h
      subst h
      rfl
  next =>
    injection h with h
    subst h
    rfl

/-! ## §2. Relative texts. -/

/-- How many slashes of either kind a text begins with. -/
def slashesOf (cs : List Char) : Nat := (cs.takeWhile fun c => c == '/' || c == '\\').length

/-- A text after the slashes that begin its authority: two plain ones, or all. -/
def afterSlashes (cs : List Char) : List Char :=
  cs.drop (if cs.take 2 = ['/', '/'] then 2 else slashesOf cs)

/-- A path, a query or a fragment stays on the server. -/
theorem server_resolveRelative (base : Address) (hfew : slashesOf cs < 2) :
    ∃ url, resolveRelative base cs = .ok url ∧ Server.ofUrl url = Server.ofUrl base := by
  unfold resolveRelative
  dsimp only
  split
  next => exact ⟨_, rfl, rfl⟩
  next => exact ⟨_, rfl, rfl⟩
  next => exact ⟨_, rfl, rfl⟩
  next =>
    split
    next =>
      exact ⟨_, if_neg (Nat.not_le_of_lt hfew), rfl⟩
    next => exact ⟨_, rfl, rfl⟩

/-- Two slashes begin an authority. -/
theorem resolveRelative_of_slashes (base : Address) (hmany : 2 ≤ slashesOf cs) :
    resolveRelative base cs = readAfterSlashes base.scheme (afterSlashes cs) := by
  unfold resolveRelative
  dsimp only
  split
  next => simp [slashesOf] at hmany
  next => simp [slashesOf] at hmany
  next => simp [slashesOf] at hmany
  next c rest _ _ =>
    have hslash : c = '/' ∨ c = '\\' := by
      by_contra hnone
      simp [slashesOf, not_or.mp hnone] at hmany
    rw [if_pos hslash]
    refine (if_pos hmany).trans ?_
    generalize c :: rest = cs
    unfold afterSlashes
    split
    next => rfl
    next hother =>
      have hmixed : cs.take 2 ≠ ['/', '/'] := by
        intro htwo
        refine hother (cs.drop 2) ?_
        rw [← List.take_append_drop 2 cs, htwo]
        rfl
      rw [if_neg hmixed]
      rfl

/-! ## §3. What a text says of a server. -/

/-- How a text refers to a server. -/
inductive Reference where
  /-- Not at all. -/
  | within
  /-- Under a scheme of the web, by an authority that it spells out. -/
  | spelled (scheme text : List Char)
  /-- By a scheme that is not of the web. -/
  | foreign (scheme : List Char)
  deriving DecidableEq, Repr

namespace Reference

/-- What a text says of a server beside a base of the web.  The base's own
scheme says nothing without two slashes after it. -/
def ofText (base : Address) (cs : List Char) : Reference :=
  match splitScheme cs with
  | none => if slashesOf cs < 2 then .within else .spelled base.scheme (afterSlashes cs)
  | some (scheme, rest) =>
    if SchemeKind.ofName scheme = .web then
      if slashesOf rest < 2 ∧ base.scheme = scheme then .within
      else .spelled scheme (rest.drop (slashesOf rest))
    else .foreign scheme

/-- A reference leads to the server of a base: it tells no other one. -/
def LeadsTo (base : Address) : Reference → Prop
  | within => True
  | spelled scheme text => ∃ a rest, readAuthority scheme text = .ok (a, rest) ∧
      Server.ofAuthority scheme a = Server.ofUrl base
  | foreign _ => False

end Reference

theorem readScheme_web (base : Address) (hkind : SchemeKind.ofName scheme = .web) :
    readScheme (some base) scheme cs =
      if slashesOf cs < 2 ∧ base.scheme = scheme then resolveRelative base cs
      else readAfterSlashes scheme (cs.drop (slashesOf cs)) := by
  unfold readScheme
  rw [hkind]
  rfl

/-- A base of the web is none for files, and of no other use to a scheme that is not the web's. -/
theorem readScheme_of_foreign (hweb : base.kind = .web) (hkind : SchemeKind.ofName scheme ≠ .web) :
    readScheme (some base) scheme cs = readScheme none scheme cs := by
  have hnofile : base.scheme ≠ fileScheme := by
    intro hfile
    rw [Address.kind, hfile] at hweb
    exact nomatch hweb
  unfold readScheme
  split
  -- only the reader of files asks for a base, and for one that is a file itself
  next =>
    rw [Option.filter_some, if_neg (by simpa using hnofile)]
    rfl
  next => rfl
  next hk => exact absurd hk hkind

theorem readScheme_none_web (hkind : SchemeKind.ofName scheme = .web) :
    readScheme none scheme cs = readAfterSlashes scheme (cs.drop (slashesOf cs)) := by
  unfold readScheme
  rw [hkind]
  rfl

theorem scheme_readScheme_none (h : readScheme none scheme cs = .ok url) : url.scheme = scheme := by
  unfold readScheme at h
  split at h
  next hkind =>
    have hfile : scheme = "file".toList := by
      by_contra hne
      rw [SchemeKind.ofName, if_neg hne] at hkind
      split at hkind <;> exact nomatch hkind
    exact (scheme_readFile h).trans hfile.symm
  next => exact scheme_readOther h
  next =>
    obtain ⟨a, rest, -, -, hserver⟩ := readAfterSlashes_eq_ok h
    exact congrArg Server.scheme hserver

/-- What becomes of a text beside a base of the web. -/
theorem resolveCleaned_cases (hweb : base.kind = .web) (hrooted : base.isRootless = false)
    (cs : List Char) :
    (Reference.ofText base cs = .within ∧
      ∃ url, resolveCleaned (some base) cs = .ok url ∧ Server.ofUrl url = Server.ofUrl base) ∨
    (∃ scheme text, Reference.ofText base cs = .spelled scheme text ∧
      resolveCleaned (some base) cs = readAfterSlashes scheme text) ∨
    (∃ scheme rest, Reference.ofText base cs = .foreign scheme ∧
      SchemeKind.ofName scheme ≠ .web ∧
      resolveCleaned (some base) cs = readScheme none scheme rest) := by
  unfold Reference.ofText resolveCleaned
  cases hsplit : splitScheme cs with
  | none =>
    dsimp only
    by_cases hfew : slashesOf cs < 2
    · refine .inl ⟨if_pos hfew, ?_⟩
      split
      -- a fragment is read without a look at the base's path
      next => exact ⟨_, rfl, rfl⟩
      next =>
        rw [hrooted, hweb]
        exact server_resolveRelative base hfew
    · refine .inr (.inl ⟨_, _, if_neg hfew, ?_⟩)
      split
      next => exact absurd (by simp [slashesOf]) hfew
      next =>
        rw [hrooted, hweb]
        exact resolveRelative_of_slashes base (Nat.le_of_not_lt hfew)
  | some named =>
    obtain ⟨scheme, rest⟩ := named
    dsimp only
    by_cases hkind : SchemeKind.ofName scheme = .web
    · rw [if_pos hkind, readScheme_web base hkind]
      -- the base's own scheme without two slashes is read as if it were not there
      by_cases hown : slashesOf rest < 2 ∧ base.scheme = scheme
      · rw [if_pos hown, if_pos hown]
        exact .inl ⟨rfl, server_resolveRelative base hown.1⟩
      · rw [if_neg hown, if_neg hown]
        exact .inr (.inl ⟨_, _, rfl, rfl⟩)
    · rw [if_neg hkind, readScheme_of_foreign hweb hkind]
      exact .inr (.inr ⟨scheme, rest, rfl, hkind, rfl⟩)

/-- Of what an authority is spelled out for, the authority decides. -/
theorem leadsTo_spelled_iff (h : readAfterSlashes scheme cs = .ok url) :
    (Reference.spelled scheme cs).LeadsTo base ↔ Server.ofUrl url = Server.ofUrl base := by
  obtain ⟨a, rest, ha, -, hserver⟩ := readAfterSlashes_eq_ok h
  rw [hserver]
  constructor
  · rintro ⟨a', rest', ha', hsame⟩
    have heq : (a, rest) = (a', rest') := Except.ok.inj (ha.symm.trans ha')
    exact (congrArg (Server.ofAuthority scheme ·.1) heq).trans hsame
  · exact fun hsame => ⟨a, rest, ha, hsame⟩

/-- Where a text leads beside a base of the web. -/
theorem server_resolveCleaned_iff (hweb : base.kind = .web) (hrooted : base.isRootless = false)
    (h : resolveCleaned (some base) cs = .ok url) :
    Server.ofUrl url = Server.ofUrl base ↔ (Reference.ofText base cs).LeadsTo base := by
  rcases resolveCleaned_cases hweb hrooted cs with ⟨href, url', hok, hserver⟩ |
    ⟨scheme, text, href, hread⟩ | ⟨scheme, rest, href, hkind, hread⟩
  · have hsame : url = url' := Except.ok.inj (h.symm.trans hok)
    rw [href, hsame]
    exact iff_of_true hserver trivial
  · rw [href]
    exact (leadsTo_spelled_iff (hread.symm.trans h)).symm
  · rw [href]
    refine iff_of_false (fun hsame => hkind ?_) not_false
    have hscheme := scheme_readScheme_none (hread.symm.trans h)
    rw [← hscheme, show url.scheme = base.scheme from congrArg Server.scheme hsame]
    exact hweb

theorem resolveCleaned_of_within (hweb : base.kind = .web) (hrooted : base.isRootless = false)
    (hwithin : Reference.ofText base cs = .within) :
    ∃ url, resolveCleaned (some base) cs = .ok url ∧ Server.ofUrl url = Server.ofUrl base := by
  rcases resolveCleaned_cases hweb hrooted cs with ⟨-, hstays⟩ | ⟨scheme, text, href, -⟩ |
    ⟨scheme, rest, href, -⟩
  · exact hstays
  · exact nomatch hwithin.symm.trans href
  · exact nomatch hwithin.symm.trans href

/-- A text that is read without a base has a scheme. -/
theorem resolveCleaned_none_eq_ok (h : resolveCleaned none cs = .ok url) :
    ∃ scheme rest, splitScheme cs = some (scheme, rest) ∧
      readScheme none scheme rest = .ok url := by
  unfold resolveCleaned at h
  split at h
  next scheme rest hsplit => exact ⟨scheme, rest, hsplit, h⟩
  next => exact nomatch h

/-- A URL of the web has an authority. -/
theorem isRootless_of_web (h : resolveCleaned none cs = .ok url) (hweb : url.kind = .web) :
    url.isRootless = false := by
  obtain ⟨scheme, rest, -, hread⟩ := resolveCleaned_none_eq_ok h
  rw [Address.kind, scheme_readScheme_none hread] at hweb
  rw [readScheme_none_web hweb] at hread
  obtain ⟨a, -, -, ha, -⟩ := readAfterSlashes_eq_ok hread
  simp [Address.isRootless, ha]

/-- What can be read alone is read so beside a base, unless it leaves the server to it. -/
theorem resolveCleaned_of_absolute (hweb : base.kind = .web) (h : resolveCleaned none cs = .ok url)
    (hown : Reference.ofText base cs ≠ .within) : resolveCleaned (some base) cs = .ok url := by
  obtain ⟨scheme, rest, hsplit, hread⟩ := resolveCleaned_none_eq_ok h
  unfold Reference.ofText at hown
  rw [hsplit] at hown
  unfold resolveCleaned
  rw [hsplit]
  dsimp only at hown ⊢
  by_cases hkind : SchemeKind.ofName scheme = .web
  · rw [if_pos hkind] at hown
    have hfar : ¬(slashesOf rest < 2 ∧ base.scheme = scheme) := fun hnear => hown (if_pos hnear)
    rw [readScheme_web base hkind, if_neg hfar, ← readScheme_none_web hkind]
    exact hread
  · rw [readScheme_of_foreign hweb hkind]
    exact hread

/-! ## §4. Plain texts. -/

/-- A character of a plain text: no blank or control, colon or backslash. -/
def isPlain (c : Char) : Bool := 0x20 < c.toNat && c != ':' && c != '\\'

theorem dropWhile_blank_of_plain (hplain : ∀ c ∈ cs, isPlain c = true) :
    cs.dropWhile (fun c => c.toNat ≤ 0x20) = cs := by
  cases cs with
  | nil => rfl
  | cons c rest =>
    have hc := hplain c List.mem_cons_self
    exact List.dropWhile_cons_of_neg (by simp_all [isPlain])

theorem cleaned_of_plain (hplain : ∀ c ∈ cs, isPlain c = true) : cleaned cs = cs := by
  have hreversed : ∀ c ∈ cs.reverse, isPlain c = true :=
    fun c hc => hplain c (List.mem_reverse.mp hc)
  unfold cleaned
  dsimp only
  rw [dropWhile_blank_of_plain hplain, dropWhile_blank_of_plain hreversed, List.reverse_reverse]
  refine List.filter_eq_self.mpr fun c hc => ?_
  have hne : ∀ b, isPlain b = false → c ≠ b := by
    rintro b hb rfl
    exact absurd (hplain c hc) (Bool.eq_false_iff.mp hb)
  simp [hne '\t' (by decide), hne '\n' (by decide), hne '\r' (by decide)]

theorem splitScheme_of_no_colon (hnone : ':' ∉ cs) : splitScheme cs = none := by
  unfold splitScheme
  split
  next =>
    split
    next =>
      split
      next heq =>
        have hmem := heq ▸ List.mem_cons_self
        exact absurd ((List.dropWhile_sublist isSchemeChar).subset hmem) hnone
      next => rfl
    next => rfl
  next => rfl

/-- A plain text without slashes at its front says nothing of a server. -/
theorem Reference.ofText_of_plain (base : Address) (hplain : ∀ c ∈ cs, isPlain c = true)
    (hfront : cs.head? ≠ some '/') : Reference.ofText base cs = .within := by
  have hcolon : ':' ∉ cs := fun hmem => absurd (hplain _ hmem) (by decide)
  have hslashes : slashesOf cs = 0 := by
    cases cs with
    | nil => rfl
    | cons c rest =>
      have hc := hplain c List.mem_cons_self
      simp_all [slashesOf, isPlain]
  unfold Reference.ofText
  rw [splitScheme_of_no_colon hcolon, hslashes]
  rfl

end Url

/-! ## §5. Endpoints. -/

namespace Upstream

open Url

/-- What is read of an endpoint: neither the slashes at its front, nor controls
and blanks at its ends, tabs and line breaks. -/
def textOf (endpoint : String) : List Char :=
  cleaned (endpoint.toList.dropWhile (· == '/'))

theorem resolve_eq_ok_iff {u : Upstream} {endpoint : String} {url : Url.Address} :
    u.resolve endpoint = .ok url ↔ resolveCleaned (some u.base) (textOf endpoint) = .ok url := by
  have hjoin : join u.base (String.ofList (endpoint.toList.dropWhile (· == '/'))) =
      resolveCleaned (some u.base) (textOf endpoint) := by
    rw [join, String.toList_ofList, textOf]
  unfold resolve
  rw [hjoin]
  cases resolveCleaned (some u.base) (textOf endpoint) <;> simp

theorem isRootless_ofBase {raw : String} {u : Upstream} (h : ofBase raw = .ok u)
    (hweb : u.base.kind = .web) : u.base.isRootless = false := by
  unfold ofBase at h
  cases hparse : Url.parse (baseText raw) with
  | error e =>
    rw [hparse] at h
    exact nomatch h
  | ok base =>
    rw [hparse] at h
    obtain rfl : ⟨base⟩ = u := Except.ok.inj h
    have hread : resolveCleaned none (cleaned (baseText raw).toList) = .ok base := hparse
    exact isRootless_of_web hread hweb

/-- A plain endpoint says nothing of a server. -/
theorem ofText_textOf_of_plain (base : Url.Address) {endpoint : String}
    (hplain : ∀ c ∈ endpoint.toList, isPlain c = true) :
    Reference.ofText base (textOf endpoint) = .within := by
  have htext : ∀ c ∈ endpoint.toList.dropWhile (· == '/'), isPlain c = true :=
    fun c hc => hplain c ((List.dropWhile_sublist _).subset hc)
  rw [textOf, cleaned_of_plain htext]
  refine Reference.ofText_of_plain base htext fun hhead => ?_
  have hstop := List.head?_dropWhile_not (· == '/') endpoint.toList
  rw [hhead] at hstop
  exact nomatch hstop

/-- **When an endpoint stays on the server of its upstream**, whose base is of
the web.

* A URL it resolves to is on the base's server exactly if the endpoint says
  nothing of a server, or spells out the base's own.
* An endpoint without blanks, controls, colons and backslashes always resolves,
  on the base's server.
* An endpoint that is a URL by itself, not just the base's scheme before a
  path, is asked for as it stands, wherever that is. -/
theorem resolve_on_server_iff {raw : String} {u : Upstream} (hbase : ofBase raw = .ok u)
    (hweb : u.base.kind = .web) (endpoint : String) :
    let reference := Reference.ofText u.base (textOf endpoint)
    (∀ url, u.resolve endpoint = .ok url →
      (Server.ofUrl url = Server.ofUrl u.base ↔ reference.LeadsTo u.base)) ∧
    ((∀ c ∈ endpoint.toList, isPlain c = true) →
      ∃ url, u.resolve endpoint = .ok url ∧ Server.ofUrl url = Server.ofUrl u.base) ∧
    (∀ url, resolveCleaned none (textOf endpoint) = .ok url → reference ≠ .within →
      u.resolve endpoint = .ok url) := by
  intro reference
  have hrooted := isRootless_ofBase hbase hweb
  refine ⟨?_, ?_, ?_⟩
  · intro url hurl
    exact server_resolveCleaned_iff hweb hrooted (resolve_eq_ok_iff.mp hurl)
  · intro hplain
    obtain ⟨url, hok, hserver⟩ :=
      resolveCleaned_of_within hweb hrooted (ofText_textOf_of_plain u.base hplain)
    exact ⟨url, resolve_eq_ok_iff.mpr hok, hserver⟩
  · intro url hurl hown
    exact resolve_eq_ok_iff.mpr (resolveCleaned_of_absolute hweb hurl hown)

/-- An upstream at a port of this host. -/
def localUpstream : Upstream :=
  ⟨⟨"http".toList, some ⟨none, some (.name "localhost".toList), some 8000⟩, ['/'], none, none⟩⟩

/-- The bots are asked from it. -/
theorem botsEndpoint_stays :
    let u := localUpstream
    ofBase "http://localhost:8000" = .ok u ∧ u.base.kind = .web ∧
      ∃ url, u.resolve botsEndpoint = .ok url ∧ Server.ofUrl url = Server.ofUrl u.base := by
  intro u
  have hbase : ofBase "http://localhost:8000" = .ok u := by decide +kernel
  have hweb : u.base.kind = .web := by decide +kernel
  have hplain : botsEndpoint.toList.all isPlain = true := by decide +kernel
  obtain ⟨-, hstays, -⟩ := resolve_on_server_iff hbase hweb botsEndpoint
  exact ⟨hbase, hweb, hstays (List.all_eq_true.mp hplain)⟩

/-- Another server is asked for an endpoint that is a URL by itself, and for
one whose authority follows backslashes. -/
theorem endpoints_can_leave :
    let u := localUpstream
    let other : Url.Address := ⟨"http".toList, some ⟨none, some (.name "other.example".toList), none⟩,
      "/z".toList, none, none⟩
    ofBase "http://localhost:8000" = .ok u ∧ u.resolve "http://other.example/z" = .ok other ∧
      u.resolve "\\\\other.example/z" = .ok other ∧ Server.ofUrl other ≠ Server.ofUrl u.base := by
  decide +kernel

end Upstream
end Dashboard
