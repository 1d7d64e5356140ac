/-
  Dashboard.Toml.Reader
  ─────────────────────
  Reading a TOML 1.0 text as data.

  A text is a sequence of lines: blank lines, headers, and keys with values.
  A key path has fewer than 80 keys; fewer than 80 brackets may be open at
  once.  A list may run over several lines and end in a comma, an inline table
  may not.  A byte order mark at the start is passed over.
-/
import Dashboard.Toml.Quoted
import Dashboard.Toml.Table
import Dashboard.Toml.Word

namespace Dashboard.Toml

open Dashboard.Json (Value)

/-! ## §1. Between values. -/

/-- The text without its leading blanks. -/
def skipBlanks (cs : List Char) : List Char := cs.dropWhile isBlank

/-- One given character after blanks. -/
def mark? (c : Char) (cs : List Char) : Option (List Char) :=
  match skipBlanks cs with
  | d :: rest => if d = c then some rest else none
  | [] => none

/-- The text after blanks, line ends and comments, which end with their line;
`comment` says whether one is open. -/
def skipFill : (comment : Bool) → List Char → Option (List Char)
  | _, '\n' :: rest => skipFill false rest
  | _, '\r' :: '\n' :: rest => skipFill false rest
  | true, c :: rest => if isPlain c then skipFill true rest else none
  | true, [] => none
  | false, ' ' :: rest => skipFill false rest
  | false, '\t' :: rest => skipFill false rest
  | false, '#' :: rest => skipFill true rest
  | false, cs => some cs

/-- The text after the end of this line, before which only blanks and a
comment may stand. -/
def endLine? : (comment : Bool) → List Char → Option (List Char)
  | _, [] => some []
  | _, '\n' :: rest => some rest
  | _, '\r' :: '\n' :: rest => some rest
  | true, c :: rest => if isPlain c then endLine? true rest else none
  | false, ' ' :: rest => endLine? false rest
  | false, '\t' :: rest => endLine? false rest
  | false, '#' :: rest => endLine? true rest
  | false, _ => none

/-! ## §2. Keys. -/

/-- The characters of a key without quotes. -/
def isBareKeyChar (c : Char) : Bool := c.isAlphanum || c == '_' || c == '-'

/-- One key. -/
def key? (cs : List Char) : Option (String × List Char) :=
  if cs.head?.any isQuote then lineString? cs
  else
    match cs.takeWhile isBareKeyChar with
    | [] => none
    | bare => some (String.ofList bare, cs.dropWhile isBareKeyChar)

/-- The greatest number of keys in a path, and of brackets that are open. -/
def depthLimit : Nat := 79

/-- Keys with points between them, at most as many as given: all but the
last, the last, and the rest of the text. -/
def path? : Nat → List Char → Option ((List String × String) × List Char)
  | 0, _ => none
  | more + 1, cs => do
    let (key, rest) ← key? (skipBlanks cs)
    match mark? '.' rest with
    | some rest => do
      let ((path, last), rest) ← path? more rest
      pure ((key :: path, last), rest)
    | none => pure (([], key), rest)

/-! ## §3. Values. -/

/-- A way to read the value at the start of a text. -/
abbrev ValueReader := List Char → Option (Value × List Char)

/-- A key and its value, put into a table. -/
def entry? (read : ValueReader) (t : Table) (cs : List Char) : Option (Table × List Char) := do
  let ((path, key), cs) ← path? depthLimit cs
  let cs ← mark? '=' cs
  let (v, cs) ← read (skipBlanks cs)
  let t ← t.assign key v path
  pure (t, cs)

/-- The items of a list after its bracket or a comma, newest first; there are
at most as many as given. -/
def items? (read : ValueReader) : Nat → List Value → List Char → Option (List Value × List Char)
  | 0, _, _ => none
  | more + 1, items, cs =>
    match skipFill false cs with
    | some (']' :: rest) => some (items.reverse, rest)
    | some cs => do
      let (v, cs) ← read cs
      match ← skipFill false cs with
      | ',' :: rest => items? read more (v :: items) rest
      | ']' :: rest => pure ((v :: items).reverse, rest)
      | _ => none
    | none => none

/-- The entries of an inline table after its brace or a comma; there are at
most as many as given. -/
def entries? (read : ValueReader) : Nat → Table → List Char → Option (Table × List Char)
  | 0, _, _ => none
  | more + 1, t, cs => do
    let (t, cs) ← entry? read t cs
    match skipBlanks cs with
    | ',' :: rest => entries? read more t rest
    | '\x7d' :: rest => pure (t, rest)
    | _ => none

/-- A value without brackets. -/
def scalar? (cs : List Char) : Option (Value × List Char) :=
  if cs.head?.any isQuote then (string? cs).map fun r => (.text r.1, r.2) else word? cs

/-- The value at the start of a text, with at most as many open brackets as
given. -/
def value? : (depth : Nat) → ValueReader
  | 0, cs => scalar? cs
  | depth + 1, cs =>
    match cs with
    | '[' :: rest => (items? (value? depth) cs.length [] rest).map fun r => (.list r.1, r.2)
    | '\x7b' :: rest =>
      match mark? '\x7d' rest with
      | some rest => some (.object [], rest)
      | none => (entries? (value? depth) cs.length [] rest).map fun r => (r.1.data, r.2)
    | _ => scalar? cs

/-! ## §4. Lines. -/

/-- A header with its closing marks, put into the table of the whole text;
the keys that follow it belong to the path. -/
def header? (marks : List Char) (change : String → Table → Option Table) (root : Table)
    (cs : List Char) : Option ((Table × List String) × List Char) := do
  let ((path, key), cs) ← path? depthLimit cs
  let cs ← if marks.isPrefixOf (skipBlanks cs) then some ((skipBlanks cs).drop marks.length)
    else none
  let cs ← endLine? false cs
  let root ← root.atPath (change key) path
  pure ((root, path ++ [key]), cs)

/-- A line that is not blank: the table of the whole text after it, and the
path of the table that the next keys belong to. -/
def line? (root : Table) (here : List String) (cs : List Char) :
    Option ((Table × List String) × List Char) :=
  match cs with
  | '[' :: '[' :: rest => header? [']', ']'] Table.extend root rest
  | '[' :: rest => header? [']'] Table.declare root rest
  | _ => do
    let ((path, key), cs) ← path? depthLimit cs
    let cs ← mark? '=' cs
    let (v, cs) ← value? depthLimit (skipBlanks cs)
    let cs ← endLine? false cs
    let root ← root.atPath (fun t => t.assign key v path) here
    pure ((root, here), cs)

/-- All lines; there are at most as many as given. -/
def lines? : Nat → Table → List String → List Char → Option Table
  | 0, _, _, _ => none
  | more + 1, root, here, cs =>
    match skipBlanks cs with
    | [] => some root
    | c :: rest =>
      match endLine? false (c :: rest) with
      | some cs => lines? more root here cs
      | none => (line? root here (c :: rest)).bind fun r => lines? more r.1.1 r.1.2 r.2

/-- The data of a TOML text. -/
def read (s : String) : Option Value :=
  let cs := match s.toList with
    | c :: rest => if c = Char.ofNat 0xFEFF then rest else c :: rest
    | [] => []
  (lines? (cs.length + 1) [] [] cs).map Table.data

end Dashboard.Toml
