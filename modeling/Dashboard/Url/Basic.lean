/-
  Dashboard.Url.Basic
  ───────────────────
  URLs (WHATWG URL Standard) and their text.

  A URL has a scheme, perhaps an authority, a path, perhaps a query and a
  fragment.  The path is kept as text.  A URL without an authority whose path
  does not begin with a slash is rootless: nothing can be resolved against it
  but a fragment.
-/
import Dashboard.Url.Host

namespace Dashboard.Url

/-! ## §1. Schemes. -/

/-- How a scheme is treated. -/
inductive SchemeKind where
  /-- The web's schemes, which need a host. -/
  | web
  /-- Files, whose host is mostly empty. -/
  | file
  /-- All others. -/
  | other
  deriving DecidableEq, Repr

/-- The kind of a scheme. -/
def SchemeKind.ofName (scheme : List Char) : SchemeKind :=
  if scheme = "file".toList then .file
  else if ["http", "https", "ws", "wss", "ftp"].any (fun s => s.toList = scheme) then .web
  else .other

/-- Schemes that treat a backslash as a slash. -/
def SchemeKind.isSpecial (k : SchemeKind) : Bool := k != .other

/-- The port that a scheme implies. -/
def standardPort? (scheme : List Char) : Option Nat :=
  if scheme = "http".toList ∨ scheme = "ws".toList then some 80
  else if scheme = "https".toList ∨ scheme = "wss".toList then some 443
  else if scheme = "ftp".toList then some 21
  else none

/-! ## §2. URLs. -/

/-- Who answers for a URL: credentials as written before the `@`, the host, and
the port where it is not the scheme's own. -/
structure Authority where
  credentials : Option (List Char)
  host : Option Host
  port : Option Nat
  deriving DecidableEq, Repr

/-- A URL. -/
structure Address where
  scheme : List Char
  authority : Option Authority
  path : List Char
  query : Option (List Char)
  fragment : Option (List Char)
  deriving DecidableEq, Repr

namespace Authority

/-- The text of an authority, with its two slashes. -/
def render (a : Authority) : List Char :=
  '/' :: '/' :: ((a.credentials.map (· ++ ['@'])).getD [])
    ++ ((a.host.map Host.render).getD [])
    ++ ((a.port.map fun n => ':' :: (toString n).toList).getD [])

end Authority

namespace Address

def kind (u : Address) : SchemeKind := .ofName u.scheme

/-- Neither authority nor a path from the root. -/
def isRootless (u : Address) : Bool := u.authority.isNone && u.path.head? != some '/'

/-- A mark before the path where the path would else read as an authority. -/
def pathGuard (u : Address) : List Char :=
  match u.authority, u.path with
  | none, '/' :: '/' :: _ => ['/', '.']
  | _, _ => []

/-- The text of a URL. -/
def renderList (u : Address) : List Char :=
  u.scheme ++ ':' :: ((u.authority.map Authority.render).getD []) ++ u.pathGuard ++ u.path
    ++ ((u.query.map ('?' :: ·)).getD []) ++ ((u.fragment.map ('#' :: ·)).getD [])

/-- The text of a URL. -/
def render (u : Address) : String := String.ofList u.renderList

end Address
end Dashboard.Url
