/-
  Dashboard.Toml.Quoted
  ─────────────────────
  The four kinds of strings.

  A string between double quotes knows escapes, one between single quotes
  does not.  Three quotes open a block: it runs over several lines, a line end
  directly after the opening is dropped, every line end reads as a line feed,
  and up to two quotes may stand next to each other, also before the three
  that close it.  In a block between double quotes a backslash at the end of a
  line drops everything up to the next character that is not blank.  No
  control character but the tab stands for itself.
-/
import Dashboard.Json.Token

namespace Dashboard.Toml

open Dashboard.Json (hexValue?)

/-! ## §1. Classes. -/

/-- The blanks within a line. -/
def isBlank (c : Char) : Bool := c == ' ' || c == '\t'

/-- The characters that stand for themselves in strings and comments. -/
def isPlain (c : Char) : Bool := c == '\t' || (0x20 ≤ c.toNat && c.toNat != 0x7F)

/-! ## §2. Escapes. -/

/-- The character with the number that `size` hexadecimal digits write. -/
def numbered? (size : Nat) (cs : List Char) : Option Char := do
  let digits ← (cs.take size).mapM hexValue?
  let n := digits.foldl (fun n d => n * 16 + d) 0
  if digits.length = size ∧ n.isValidChar then some (Char.ofNat n) else none

/-- The character that an escape stands for, and how many characters follow
its backslash. -/
def escape? : List Char → Option (Char × Nat)
  | [] => none
  | c :: rest =>
    if c = '"' ∨ c = '\\' then some (c, 1)
    else if c = 'b' then some (Char.ofNat 8, 1)
    else if c = 't' then some ('\t', 1)
    else if c = 'n' then some ('\n', 1)
    else if c = 'f' then some (Char.ofNat 12, 1)
    else if c = 'r' then some ('\r', 1)
    else if c = 'u' then (numbered? 4 rest).map (·, 5)
    else if c = 'U' then (numbered? 8 rest).map (·, 9)
    else none

/-- How many blanks and line ends a text begins with. -/
def fillLength : List Char → Nat
  | ' ' :: rest | '\t' :: rest | '\n' :: rest => fillLength rest + 1
  | '\r' :: '\n' :: rest => fillLength rest + 2
  | _ => 0

/-- A line end, which may be written with a carriage return. -/
def lineEnd? : List Char → Option (List Char)
  | '\n' :: rest | '\r' :: '\n' :: rest => some rest
  | _ => none

/-- How many characters a backslash at the end of a line drops. -/
def joinLength? (cs : List Char) : Option Nat :=
  let blanks := (cs.takeWhile isBlank).length
  (lineEnd? (cs.drop blanks)).map fun _ => blanks + fillLength (cs.drop blanks)

/-! ## §3. Strings. -/

/-- The rest of a string up to its closing quotes, newest character first. -/
def scanQuoted (quote : Char) (block : Bool) (acc : List Char) (cs : List Char) :
    Option (List Char × List Char) :=
  match cs with
  | [] => none
  | c :: rest =>
    if c = quote then
      if block then
        -- of up to five quotes the last three close the block
        let more := (rest.takeWhile (· = quote)).length
        if more < 2 then scanQuoted quote block (c :: acc) rest
        else
          let inside := min (more - 2) 2
          some ((List.replicate inside c ++ acc).reverse, rest.drop (inside + 2))
      else some (acc.reverse, rest)
    else if c = '\\' ∧ quote = '"' then
      match if block then joinLength? rest else none with
      | some n => scanQuoted quote block acc (rest.drop n)
      | none =>
        match escape? rest with
        | some (x, n) => scanQuoted quote block (x :: acc) (rest.drop n)
        | none => none
    else if isPlain c ∨ (block ∧ c = '\n') then scanQuoted quote block (c :: acc) rest
    -- a line end is kept without its carriage return
    else if block ∧ c = '\r' ∧ rest.head? = some '\n' then scanQuoted quote block acc rest
    else none
  termination_by cs.length
  decreasing_by all_goals simp only [List.length_drop, List.length_cons]; omega

/-- The quotes. -/
def isQuote (c : Char) : Bool := c == '"' || c == '\''

/-- A string on one line. -/
def lineString? : List Char → Option (String × List Char)
  | [] => none
  | q :: rest =>
    if isQuote q then (scanQuoted q false [] rest).map fun r => (String.ofList r.1, r.2) else none

/-- A string of any kind. -/
def string? (cs : List Char) : Option (String × List Char) :=
  match cs with
  | q :: r :: s :: rest =>
    if isQuote q ∧ r = q ∧ s = q then
      (scanQuoted q true [] ((lineEnd? rest).getD rest)).map fun r => (String.ofList r.1, r.2)
    else lineString? cs
  | _ => lineString? cs

end Dashboard.Toml
