/-
  Dashboard.Url.Host
  ──────────────────
  The host of a URL: a name, an IPv4 address or an IPv6 address.

  A name is percent decoded, mapped to lower case and written in ASCII, labels
  with other characters in Punycode.  A name whose last label is a number is
  an IPv4 address, whose parts may be decimal, octal or hexadecimal.  An IPv6
  address stands in brackets and is written with its longest run of at least
  two zero pieces left out.
-/
import Dashboard.Text.Blank
import Dashboard.Text.FormEncoding
import Dashboard.Text.Lowercase
import Dashboard.Text.Percent
import Dashboard.Text.Printable
import Dashboard.Text.Punycode

namespace Dashboard.Url

open Text

/-! ## §1. Hosts and faults. -/

/-- Why a text is no URL. -/
inductive UrlError where
  | emptyHost
  | invalidName
  | invalidNameCharacter
  | invalidPort
  | invalidIpv4
  | invalidIpv6
  | noBase
  | rootlessBase
  deriving DecidableEq, Repr

/-- The wording of a fault. -/
def UrlError.message : UrlError → String
  | .emptyHost => "empty host"
  | .invalidName => "invalid international domain name"
  | .invalidNameCharacter => "invalid domain character"
  | .invalidPort => "invalid port number"
  | .invalidIpv4 => "invalid IPv4 address"
  | .invalidIpv6 => "invalid IPv6 address"
  | .noBase => "relative URL without a base"
  | .rootlessBase => "relative URL with a cannot-be-a-base base"

/-- A host. -/
inductive Host where
  | name (s : List Char)
  | ipv4 (n : Nat)
  | ipv6 (pieces : List Nat)
  deriving DecidableEq, Repr

/-! ## §2. IPv4 addresses. -/

/-- The value of a digit in a base up to sixteen. -/
def digitIn? (base : Nat) (c : Char) : Option Nat :=
  let v :=
    if '0' ≤ c ∧ c ≤ '9' then some (c.toNat - 48)
    else if 'a' ≤ c ∧ c ≤ 'f' then some (c.toNat - 87)
    else if 'A' ≤ c ∧ c ≤ 'F' then some (c.toNat - 55)
    else none
  v.filter (· < base)

/-- The number written in a base; zero for no digit. -/
def numberIn? (base : Nat) (cs : List Char) : Option Nat :=
  cs.foldlM (fun n c => (digitIn? base c).map (n * base + ·)) 0

/-- The number of a part of an address: a leading `0x` makes it hexadecimal, a
further leading zero octal. -/
def ipv4Number? : List Char → Option Nat
  | [] => none
  | '0' :: 'x' :: rest | '0' :: 'X' :: rest => numberIn? 16 rest
  | '0' :: c :: rest => numberIn? 8 (c :: rest)
  | cs => numberIn? 10 cs

/-- The parts of a dotted text, without one empty last part. -/
def dotParts (cs : List Char) : List (List Char) :=
  let parts := FormEncoding.splitOn '.' cs
  if 1 < parts.length ∧ parts.getLast? = some [] then parts.dropLast else parts

/-- Whether the last part of a dotted text is a number. -/
def endsInNumber (cs : List Char) : Bool :=
  match (dotParts cs).getLast? with
  | some part => (part ≠ [] && part.all Char.isDigit) || (ipv4Number? part).isSome
  | none => false

/-- The address of a dotted text: the parts before the last are octets, the
last one fills the rest. -/
def ipv4? (cs : List Char) : Option Nat := do
  let numbers ← (dotParts cs).mapM ipv4Number?
  if 4 < numbers.length then none
  else
    let last ← numbers.getLast?
    let octets := numbers.dropLast
    if octets.any (255 < ·) ∨ Nat.pow 256 (4 - octets.length) ≤ last then none
    else
      pure (octets.zipIdx.foldl (fun sum (n, i) => sum + n * Nat.pow 256 (3 - i)) last)

/-- The text of an address. -/
def renderIpv4 (n : Nat) : List Char :=
  (s!"{n / 16777216}.{n / 65536 % 256}.{n / 256 % 256}.{n % 256}").toList

/-! ## §3. IPv6 addresses. -/

/-- One to four hexadecimal digits. -/
def ipv6Piece? (cs : List Char) : Option Nat :=
  if cs.length < 1 ∨ 4 < cs.length then none else numberIn? 16 cs

/-- An octet in decimal digits without a leading zero. -/
def octet? (cs : List Char) : Option Nat :=
  match cs with
  | [] => none
  | '0' :: _ :: _ => none
  | _ => (numberIn? 10 cs).filter (· < 256)

/-- The two pieces of a dotted tail. -/
def dottedPieces? (cs : List Char) : Option (List Nat) := do
  match ← (FormEncoding.splitOn '.' cs).mapM octet? with
  | [a, b, c, d] => pure [a * 256 + b, c * 256 + d]
  | _ => none

/-- The pieces between colons; the last may be dotted. -/
def ipv6Run? : List (List Char) → Option (List Nat)
  | [] => some []
  | [part] => if part.contains '.' then dottedPieces? part else (ipv6Piece? part).map ([·])
  | part :: rest => do
    let p ← ipv6Piece? part
    let more ← ipv6Run? rest
    pure (p :: more)

/-- The pieces of a text without `::`; none for no text. -/
def ipv6Side? (cs : List Char) : Option (List Nat) :=
  if cs = [] then some [] else ipv6Run? (FormEncoding.splitOn ':' cs)

/-- The text before and after the first `::`. -/
def splitDouble : List Char → Option (List Char × List Char)
  | ':' :: ':' :: rest => some ([], rest)
  | c :: rest => (splitDouble rest).map fun (a, b) => (c :: a, b)
  | [] => none

/-- The eight pieces of an address. -/
def ipv6? (cs : List Char) : Option (List Nat) :=
  match splitDouble cs with
  | none => do
    let pieces ← ipv6Side? cs
    if pieces.length = 8 then pure pieces else none
  | some (a, b) => do
    if a.contains '.' then none
    else
      let left ← ipv6Side? a
      let right ← ipv6Side? b
      if left.length + right.length < 8 then
        pure (left ++ List.replicate (8 - left.length - right.length) 0 ++ right)
      else none

/-- The length of the run of zeros at the head. -/
def zeroRun (l : List Nat) : Nat := (l.takeWhile (· == 0)).length

/-- Where the longest run of zeros begins, and its length. -/
def longestZeros (pieces : List Nat) : Nat × Nat :=
  (List.range pieces.length).foldl
    (fun best i => if best.2 < zeroRun (pieces.drop i) then (i, zeroRun (pieces.drop i)) else best)
    (0, 0)

/-- A piece in lower case hexadecimal digits. -/
def hexPiece (n : Nat) : List Char := Nat.toDigits 16 n

/-- Pieces with colons between them. -/
def joinPieces (pieces : List Nat) : List Char :=
  [':'].intercalate (pieces.map hexPiece)

/-- The text of an address. -/
def renderIpv6 (pieces : List Nat) : List Char :=
  let (start, length) := longestZeros pieces
  let body :=
    if 2 ≤ length then
      joinPieces (pieces.take start) ++ [':', ':'] ++ joinPieces (pieces.drop (start + length))
    else joinPieces pieces
  '[' :: body ++ [']']

/-! ## §4. Names. -/

/-- Characters that leave no trace in a name. -/
def isIgnoredInName (c : Char) : Bool :=
  c.toNat == 0xAD || c.toNat == 0x200B || c.toNat == 0x2060 || c.toNat == 0xFEFF
    || (0xFE00 ≤ c.toNat && c.toNat ≤ 0xFE0F)

/-- A character of a name in its plain form: full stops of other scripts are
full stops, full width forms are ASCII, and letters are lower case. -/
def plainNameChar (c : Char) : List Char :=
  let n := c.toNat
  if isIgnoredInName c then []
  else if n = 0x3002 ∨ n = 0xFF0E ∨ n = 0xFF61 then ['.']
  else if 0xFF01 ≤ n ∧ n ≤ 0xFF5E then lowerChar (Char.ofNat (n - 0xFEE0))
  else lowerChar c

/-- Characters that no name holds: the marks of URLs, blanks, controls, joiners
and code points that stand for no character. -/
def isForbiddenInName (c : Char) : Bool :=
  let n := c.toNat
  isBlank c || n < 0x21 || (0x7F ≤ n && n ≤ 0x9F) || n == 0x200C || n == 0x200D
    || (0xE000 ≤ n && n ≤ 0xF8FF) || n == 0xFFFD || 0xF0000 ≤ n
    || Percent.oneOf "#%/:<>?@[\\]^|" c

/-- Whether a label is in ASCII. -/
def isAsciiLabel (label : List Char) : Bool := label.all fun c => c.toNat < 0x80

/-- A label does not begin with a character that extends the one before it. -/
def beginsSoundly (label : List Char) : Bool := label.head?.all isPrintable

/-- Whether a label needs Punycode and is in its plain form. -/
def needsPunycode (label : List Char) : Bool :=
  !isAsciiLabel label && beginsSoundly label && label.flatMap plainNameChar == label
    && !label.any isForbiddenInName

/-- A label in ASCII.  One that is in Punycode already must stand for a label
that needs it. -/
def asciiLabel? (label : List Char) : Option (List Char) :=
  match label with
  | 'x' :: 'n' :: '-' :: '-' :: code =>
    if isAsciiLabel label && (Punycode.decode? code).any needsPunycode then some label else none
  | _ =>
    if isAsciiLabel label then some label
    else if beginsSoundly label then some ("xn--".toList ++ Punycode.encode label)
    else none

/-- A name in ASCII. -/
def asciiName (cs : List Char) : Except UrlError (List Char) :=
  let plain := cs.flatMap plainNameChar
  if plain.any isForbiddenInName then .error .invalidName
  else
    match (FormEncoding.splitOn '.' plain).mapM asciiLabel? with
    | some labels => .ok (['.'].intercalate labels)
    | none => .error .invalidName

/-! ## §5. Reading a host. -/

/-- The inside of a bracketed text. -/
def bracketed? (cs : List Char) : Option (Option (List Char)) :=
  match cs with
  | '[' :: rest =>
    if rest.getLast? = some ']' then some (some rest.dropLast) else some none
  | _ => none

/-- An address in brackets. -/
def readIpv6 (inside : Option (List Char)) : Except UrlError Host :=
  match inside.bind ipv6? with
  | some pieces => .ok (.ipv6 pieces)
  | none => .error .invalidIpv6

/-- The host of a URL whose scheme knows what a host is. -/
def Host.ofSpecial (cs : List Char) : Except UrlError Host :=
  match bracketed? cs with
  | some inside => readIpv6 inside
  | none => do
    let decoded ← match Utf8.decode? (Percent.decode (Utf8.encode cs)) with
      | some d => pure d
      | none => throw .invalidName
    let name ← asciiName decoded
    if name = [] then throw .emptyHost
    else if endsInNumber name then
      match ipv4? name with
      | some n => pure (.ipv4 n)
      | none => throw .invalidIpv4
    else pure (.name name)

/-- Characters that no host of another scheme holds. -/
def isForbiddenInHost (c : Char) : Bool :=
  c.toNat == 0 || Percent.oneOf "\t\n\r #/:<>?@[\\]^|" c

/-- The host of a URL of any other scheme. -/
def Host.ofOther (cs : List Char) : Except UrlError Host :=
  match bracketed? cs with
  | some inside => readIpv6 inside
  | none =>
    if cs.any isForbiddenInHost then .error .invalidNameCharacter
    else .ok (.name (Percent.encode Percent.isControl cs))

/-- The text of a host. -/
def Host.render : Host → List Char
  | .name s => s
  | .ipv4 n => renderIpv4 n
  | .ipv6 pieces => renderIpv6 pieces

end Dashboard.Url
