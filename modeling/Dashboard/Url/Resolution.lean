/-
  Dashboard.Url.Resolution
  ────────────────────────
  Reading a URL from text, alone or against a base.

  Controls and blanks at the ends of the text, and tabs and line breaks
  anywhere in it, are dropped.  A text with a scheme of its own is read from
  the scheme on; one without is resolved against the base, as a network path,
  a path from the root, a query, a fragment or a relative path.  Dot segments
  of a path are carried out while it is read.
-/
import Dashboard.Url.Basic

namespace Dashboard.Url

open Text

/-! ## §1. Classes of characters. -/

/-- Escaped in a fragment. -/
def escapedInFragment (c : Char) : Bool :=
  Percent.isControl c || Percent.oneOf " \"<>" c || c.toNat == 0x60

/-- Escaped in a path. -/
def escapedInPath (c : Char) : Bool :=
  escapedInFragment c || Percent.oneOf "#?\x7b\x7d" c

/-- Escaped in credentials. -/
def escapedInCredentials (c : Char) : Bool :=
  escapedInPath c || Percent.oneOf "/:;=@[\\]^|" c

/-- Escaped in a query. -/
def escapedInQuery (k : SchemeKind) (c : Char) : Bool :=
  Percent.isControl c || Percent.oneOf " \"#<>" c || (k.isSpecial && c == '\'')

/-- Whether a character ends a path segment. -/
def isSlash (k : SchemeKind) (c : Char) : Bool := c == '/' || (k.isSpecial && c == '\\')

/-- Whether a character ends a path. -/
def endsPath (c : Char) : Bool := c == '?' || c == '#'

/-- The text without controls and blanks at its ends, tabs and line breaks. -/
def cleaned (cs : List Char) : List Char :=
  let trimmed := (cs.dropWhile (fun c => c.toNat ≤ 0x20)).reverse.dropWhile
    (fun c => c.toNat ≤ 0x20)
  trimmed.reverse.filter fun c => !(c == '\t' || c == '\n' || c == '\r')

/-! ## §2. Paths. -/

/-- An ASCII letter. -/
def isLetter (c : Char) : Bool := c.isAlpha

/-- A letter and a colon. -/
def isDriveLetter : List Char → Bool
  | [a, b] => isLetter a && b == ':'
  | _ => false

/-- A letter and a colon or a bar. -/
def isLooseDriveLetter : List Char → Bool
  | [a, b] => isLetter a && (b == ':' || b == '|')
  | _ => false

/-- A letter, a colon or bar, and the end or a mark. -/
def startsWithDrive : List Char → Bool
  | [a, b] => isLetter a && (b == ':' || b == '|')
  | a :: b :: c :: _ => isLetter a && (b == ':' || b == '|') && Percent.oneOf "/\\?#" c
  | _ => false

/-- The path up to and with its last slash. -/
def upToLastSlash (path : List Char) : List Char :=
  (path.reverse.dropWhile (· ≠ '/')).reverse

/-- The part of the path after its last slash. -/
def lastSegment (path : List Char) : List Char :=
  (path.reverse.takeWhile (· ≠ '/')).reverse

/-- Drop the last segment, but not a file's drive. -/
def popSegment (k : SchemeKind) (path : List Char) : List Char :=
  if k = .file ∧ isDriveLetter (lastSegment path) then path else upToLastSlash path

/-- Drop the last segment, unless the path is a file's drive alone. -/
def shorten (k : SchemeKind) (path : List Char) : List Char :=
  if path = [] then path
  else if k = .file ∧ isDriveLetter path then path
  else popSegment k path

/-- Whether the last slash may go before the segment it closes is dropped. -/
def slashRemovable (path : List Char) : Bool :=
  let before := path.dropLast
  before.contains '/' && !startsWithDrive (lastSegment before ++ path.drop before.length)

/-- A segment that names the parent. -/
def isDoubleDot (s : List Char) : Bool :=
  let lowered := s.map Char.toLower
  ["..", "%2e%2e", "%2e.", ".%2e"].any fun d => d.toList == lowered

/-- A segment that names its own place. -/
def isSingleDot (s : List Char) : Bool :=
  let lowered := s.map Char.toLower
  [".", "%2e"].any fun d => d.toList == lowered

/-- Escape a segment's characters onto a path; a file's drive gets its slash.
With the path comes the length of what stands before the segment. -/
def appendSegment (k : SchemeKind) (path : List Char) (start : Nat) :
    List Char → List Char × Nat
  | [] => (path, start)
  | c :: rest =>
    let (path, start) :=
      if k = .file ∧ isDriveLetter (path.drop 1) then (path ++ ['/'], start + 1)
      else (path, start)
    appendSegment k (path ++ Percent.encodeChar escapedInPath c) start rest

/-- Carry out a parent segment: the path before it loses its last segment. -/
def applyDoubleDot (k : SchemeKind) (before : List Char) (closed : Bool) : List Char :=
  let path :=
    if before.getLast? = some '/' ∧ slashRemovable before then before.dropLast else before
  let path := shorten k path
  if closed ∧ path.getLast? ≠ some '/' then path ++ ['/'] else path

/-- Carry out a segment that names its own place. -/
def applySingleDot (before : List Char) : List Char :=
  if before.getLast? = some '/' then before else before ++ ['/']

/-- Finish a segment that begins at `start`; `closed` says that a slash ends
it.  The flag tells whether a drive takes the place of a file's host. -/
def finishSegment (k : SchemeKind) (path : List Char) (start : Nat) (closed : Bool) :
    List Char × Bool :=
  let before := path.take start
  let segment := path.drop start
  if isDoubleDot segment then (applyDoubleDot k before closed, false)
  else if isSingleDot segment then (applySingleDot before, false)
  else
    let slash := if closed then ['/'] else []
    -- a drive is spelled with a colon, and stays in front of every `..`
    if k = .file ∧ isLooseDriveLetter segment then
      (before ++ segment.take 1 ++ [':'] ++ slash, true)
    else (path ++ slash, false)

/-- Read path segments onto a path, up to the query or fragment. -/
def readSegments (k : SchemeKind) : Nat → List Char → List Char → Bool →
    (List Char × Bool) × List Char
  | 0, path, cs, drive => ((path, drive), cs)
  | fuel + 1, path, cs, drive =>
    let stops (c : Char) : Bool := isSlash k c || endsPath c
    let raw := cs.takeWhile (fun c => !stops c)
    let rest := cs.dropWhile (fun c => !stops c)
    let (appended, start) := appendSegment k path path.length raw
    match rest with
    | c :: more =>
      if isSlash k c then
        let (path, d) := finishSegment k appended start true
        readSegments k fuel path more (drive || d)
      else
        let (path, d) := finishSegment k appended start false
        ((path, drive || d), rest)
    | [] =>
      let (path, d) := finishSegment k appended start false
      ((path, drive || d), [])

/-- Read a path onto what stands of it; a file's path begins with one slash. -/
def readPath (k : SchemeKind) (path cs : List Char) : (List Char × Bool) × List Char :=
  let ((path, drive), rest) := readSegments k (cs.length + 1) path cs false
  let path := if k = .file then '/' :: path.dropWhile (· == '/') else path
  ((path, drive), rest)

/-- Read the path after an authority. -/
def readPathStart (k : SchemeKind) (cs : List Char) : (List Char × Bool) × List Char :=
  if k = .file then readPath k [] cs
  else if k.isSpecial then
    match cs with
    | c :: rest => if isSlash k c then readPath k ['/'] rest else readPath k ['/'] cs
    | [] => readPath k ['/'] []
  else
    match cs with
    | [] => (([], false), [])
    | c :: _ =>
      if endsPath c then (([], false), cs)
      else if c = '/' then readPath k [] cs
      else readPath k ['/'] cs

/-! ## §3. Query and fragment. -/

/-- Read the fragment, if its mark follows. -/
def readFragment : List Char → Option (List Char)
  | '#' :: rest => some (Percent.encode escapedInFragment rest)
  | _ => none

/-- Read the query and the fragment. -/
def readTail (k : SchemeKind) : List Char → Option (List Char) × Option (List Char)
  | '?' :: rest =>
    (some (Percent.encode (escapedInQuery k) (rest.takeWhile (· ≠ '#'))),
      readFragment (rest.dropWhile (· ≠ '#')))
  | cs => (none, readFragment cs)

/-- A URL from its front and the text of its tail. -/
def withTail (scheme : List Char) (authority : Option Authority) (path tail : List Char) : Address :=
  let (query, fragment) := readTail (.ofName scheme) tail
  ⟨scheme, authority, path, query, fragment⟩

/-! ## §4. Authorities. -/

/-- The text of an authority's front part, and what follows it. -/
def splitAuthority (k : SchemeKind) (cs : List Char) : List Char × List Char :=
  let stops (c : Char) : Bool := isSlash k c || endsPath c
  (cs.takeWhile (fun c => !stops c), cs.dropWhile (fun c => !stops c))

/-- The text before and after the last `@`. -/
def splitLastAt (cs : List Char) : Option (List Char × List Char) :=
  if cs.contains '@' then
    let host := (cs.reverse.takeWhile (· ≠ '@')).reverse
    some (cs.take (cs.length - host.length - 1), host)
  else none

/-- Credentials as they are written: an empty password leaves no colon. -/
def readCredentials (cs : List Char) : Option (List Char) :=
  let name := Percent.encode escapedInCredentials (cs.takeWhile (· ≠ ':'))
  let password := Percent.encode escapedInCredentials ((cs.dropWhile (· ≠ ':')).drop 1)
  let text := if password = [] then name else name ++ ':' :: password
  if text = [] then none else some text

/-- The host's text and what follows it: a colon outside brackets ends it. -/
def spanHost : Bool → List Char → List Char × List Char
  | _, [] => ([], [])
  | inside, c :: rest =>
    if c = ':' ∧ !inside then ([], c :: rest)
    else
      let inside := if c = '[' then true else if c = ']' then false else inside
      let (host, left) := spanHost inside rest
      (c :: host, left)

/-- Digits of a port, up to the end. -/
def readPortDigits : Nat → Bool → List Char → Except UrlError (Option Nat)
  | n, any, [] => .ok (if any then some n else none)
  | n, _, c :: rest =>
    match digitIn? 10 c with
    | none => .error .invalidPort
    | some d =>
      if 65535 < n * 10 + d then .error .invalidPort
      else readPortDigits (n * 10 + d) true rest

/-- A port that is not the scheme's own. -/
def readPort (scheme : List Char) (cs : List Char) : Except UrlError (Option Nat) := do
  let port ← readPortDigits 0 false cs
  pure (if port = standardPort? scheme then none else port)

/-- The port's text ends at a backslash, whatever the scheme. -/
def portSpan (cs : List Char) : List Char × List Char :=
  (cs.takeWhile (· ≠ '\\'), cs.dropWhile (· ≠ '\\'))

/-- The host of a scheme's kind; nothing for an empty one of an other scheme. -/
def readHost (k : SchemeKind) (cs : List Char) : Except UrlError (Option Host) :=
  if k.isSpecial then
    if cs = [] then .error .emptyHost else (Host.ofSpecial cs).map some
  else if cs = [] then .ok none
  else (Host.ofOther cs).map some

/-- Read an authority after its two slashes; the rest of the text comes back. -/
def readAuthority (scheme : List Char) (cs : List Char) :
    Except UrlError (Authority × List Char) := do
  let k := SchemeKind.ofName scheme
  let (front, rest) := splitAuthority k cs
  let (credentials, hostPort) ← match splitLastAt front with
    | none => pure (none, front)
    -- an empty name before the mark is no credential
    | some ([], host) =>
      if host = [] ∧ rest ≠ [] then throw .emptyHost else pure (none, host)
    | some (text, host) => pure (readCredentials text, host)
  let (hostText, portText) := spanHost false hostPort
  let host ← readHost k hostText
  if host.isNone ∧ portText ≠ [] then throw .emptyHost
  else
    let (digits, left) := portSpan (portText.drop 1)
    let port ← readPort scheme digits
    if host.isNone ∧ credentials.isSome then throw .emptyHost
    else pure (⟨credentials, host, port⟩, left ++ rest)

/-- Read a URL after the two slashes of its authority. -/
def readAfterSlashes (scheme : List Char) (cs : List Char) : Except UrlError Address := do
  let (authority, rest) ← readAuthority scheme cs
  let ((path, _), tail) := readPathStart (.ofName scheme) rest
  pure (withTail scheme (some authority) path tail)

/-! ## §5. Files. -/

/-- The scheme of files. -/
def fileScheme : List Char := "file".toList

/-- An authority with a host alone. -/
def hostOnly (host : Option Host) : Authority := ⟨none, host, none⟩

/-- The host's text of a file URL; a drive is no host. -/
def fileHostText (cs : List Char) : List Char × List Char :=
  let text := cs.takeWhile (fun c => !(isSlash .file c || endsPath c))
  if isLooseDriveLetter text then ([], cs) else (text, cs.drop text.length)

/-- Read a file URL after two slashes. -/
def readFileHost (cs : List Char) : Except UrlError Address := do
  let (text, rest) := fileHostText cs
  let host ← if text = [] then pure none else (Host.ofSpecial text).map some
  -- the local host is not named
  let host := if host = some (.name "localhost".toList) then none else host
  let ((path, drive), tail) := readPath .file [] rest
  pure (withTail fileScheme (some (hostOnly (if drive then none else host))) path tail)

/-- The first segment of a path. -/
def firstSegment (path : List Char) : List Char := (path.drop 1).takeWhile (· ≠ '/')

/-- Read a file URL after one slash: the drive or the host of a base stays. -/
def readFileSlash (base : Option Address) (rest cs : List Char) : Address :=
  let inherited : List Char × Option Host :=
    if startsWithDrive rest then ([], none)
    else
      match base with
      | none => ([], none)
      | some b =>
        if isDriveLetter (firstSegment b.path) then ('/' :: firstSegment b.path, none)
        else ([], b.authority.bind (·.host))
  let ((path, _), tail) := readPath .file inherited.1 cs
  withTail fileScheme (some (hostOnly inherited.2)) path tail

/-- Read a file URL after its scheme. -/
def readFile (base : Option Address) (cs : List Char) : Except UrlError Address :=
  match cs with
  | a :: b :: rest =>
    if isSlash .file a then
      if isSlash .file b then readFileHost rest else .ok (readFileSlash base (b :: rest) cs)
    else .ok (relative cs)
  | [a] => if isSlash .file a then .ok (readFileSlash base [] cs) else .ok (relative cs)
  | [] => .ok (relative [])
where
  /-- Read a relative file path. -/
  relative (cs : List Char) : Address :=
    let fresh : Address :=
      let ((path, _), tail) := readPath .file ['/'] cs
      withTail fileScheme (some (hostOnly none)) path tail
    match base, cs with
    | none, _ => fresh
    | some b, [] => { b with fragment := none }
    | some b, '#' :: rest =>
      { b with fragment := some (Percent.encode escapedInFragment rest) }
    | some b, '?' :: _ => withTail b.scheme b.authority b.path cs
    | some b, _ =>
      if startsWithDrive cs then fresh
      else
        let ((path, _), tail) := readPath .file (shorten .file b.path) cs
        withTail b.scheme b.authority path tail

/-! ## §6. Relative texts. -/

/-- Resolve a text without a scheme against a base that is not rootless. -/
def resolveRelative (base : Address) (cs : List Char) : Except UrlError Address :=
  let k := base.kind
  match cs with
  | [] => .ok { base with fragment := none }
  | '?' :: _ => .ok (withTail base.scheme base.authority base.path cs)
  | '#' :: rest => .ok { base with fragment := some (Percent.encode escapedInFragment rest) }
  | c :: rest =>
    if c = '/' ∨ c = '\\' then
      -- two slashes begin an authority, one begins a path
      let slashes := cs.takeWhile fun c => c == '/' || c == '\\'
      if 2 ≤ slashes.length then
        match cs with
        | '/' :: '/' :: after => readAfterSlashes base.scheme after
        | _ => readAfterSlashes base.scheme (cs.drop slashes.length)
      else
        let ((path, _), tail) := readPath k ['/'] rest
        .ok (withTail base.scheme base.authority path tail)
    else
      -- the text takes the place of the last segment of the base
      let popped := popSegment k base.path
      let start := if popped = [] then ['/'] else popped
      let ((path, _), tail) := readPath k start cs
      .ok (withTail base.scheme base.authority path tail)

/-! ## §7. Whole texts. -/

/-- A character of a scheme after its first letter. -/
def isSchemeChar (c : Char) : Bool := c.isAlphanum || c == '+' || c == '-' || c == '.'

/-- The scheme of a text, in lower case, and what follows its colon. -/
def splitScheme (cs : List Char) : Option (List Char × List Char) :=
  match cs with
  | c :: _ =>
    if isLetter c then
      match cs.dropWhile isSchemeChar with
      | ':' :: rest => some ((cs.takeWhile isSchemeChar).map Char.toLower, rest)
      | _ => none
    else none
  | [] => none

/-- Read a URL after a scheme that is neither the web's nor that of files. -/
def readOther (scheme cs : List Char) : Except UrlError Address :=
  match cs with
  | '/' :: '/' :: rest => readAfterSlashes scheme rest
  | '/' :: rest =>
    let ((path, _), tail) := readPath .other ['/'] rest
    .ok (withTail scheme none path tail)
  | _ =>
    let path := Percent.encode Percent.isControl (cs.takeWhile (fun c => !endsPath c))
    .ok (withTail scheme none path (cs.dropWhile (fun c => !endsPath c)))

/-- Read a URL after its scheme. -/
def readScheme (base : Option Address) (scheme cs : List Char) : Except UrlError Address :=
  match SchemeKind.ofName scheme with
  | .file => readFile (base.filter fun b => b.scheme = fileScheme) cs
  | .other => readOther scheme cs
  | .web =>
    let slashes := cs.takeWhile fun c => c == '/' || c == '\\'
    match base with
    | some b =>
      if slashes.length < 2 ∧ b.scheme = scheme then resolveRelative b cs
      else readAfterSlashes scheme (cs.drop slashes.length)
    | none => readAfterSlashes scheme (cs.drop slashes.length)

/-- Resolve cleaned text against a base, if there is one. -/
def resolveCleaned (base : Option Address) (cs : List Char) : Except UrlError Address :=
  match splitScheme cs with
  | some (scheme, rest) => readScheme base scheme rest
  | none =>
    match base with
    | none => .error .noBase
    | some b =>
      match cs with
      | '#' :: rest =>
        .ok { b with fragment := some (Percent.encode escapedInFragment rest) }
      | _ =>
        if b.isRootless then .error .rootlessBase
        else if b.kind = .file then readFile (some b) cs
        else resolveRelative b cs

/-- Read a URL from a text. -/
def parse (s : String) : Except UrlError Address := resolveCleaned none (cleaned s.toList)

/-- Read a URL from a text that may be relative to a base. -/
def join (base : Address) (s : String) : Except UrlError Address :=
  resolveCleaned (some base) (cleaned s.toList)

end Dashboard.Url
