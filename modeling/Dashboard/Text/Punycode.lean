/-
  Dashboard.Text.Punycode
  ───────────────────────
  Text in ASCII letters, digits and hyphens.

  The ASCII characters of a text come first, in their order and with a hyphen
  after them.  Then follow the others from the least on, each as the distance
  of its character and place from those of the one before.  A distance is a
  number of base 36 whose last digit stays under a threshold; the thresholds
  follow the size of the distances before.

  Main results:
    readNumber_length — a number uses up digits, so reading ends
-/

namespace Dashboard.Text.Punycode

/-! ## §1. Digits and thresholds. -/

/-- The digit of a number below 36: the letters, then the decimal digits. -/
def digit (n : Nat) : Char := Char.ofNat (if n < 26 then 97 + n else 22 + n)

/-- The number of a digit. -/
def value? (c : Char) : Option Nat :=
  if 'a' ≤ c ∧ c ≤ 'z' then some (c.toNat - 97)
  else if '0' ≤ c ∧ c ≤ '9' then some (c.toNat - 22)
  else none

/-- The threshold of a digit's place. -/
def threshold (k bias : Nat) : Nat :=
  if k ≤ bias then 1 else if bias + 26 ≤ k then 26 else k - bias

theorem threshold_pos (k bias : Nat) : 1 ≤ threshold k bias := by
  unfold threshold
  split
  · omega
  · split <;> omega

/-- The bias of a distance that was scaled down, after `k`. -/
def biasFrom (k d : Nat) : Nat :=
  if 455 < d then biasFrom (k + 36) (d / 35) else k + 36 * d / (d + 38)
termination_by d
decreasing_by exact Nat.div_lt_self (by omega) (by omega)

/-- The bias after a distance, in a text of a length; the first distance counts
for less. -/
def nextBias (distance length : Nat) (first : Bool) : Nat :=
  let d := if first then distance / 700 else distance / 2
  biasFrom 0 (d + d / length)

/-! ## §2. Writing. -/

/-- A distance in digits. -/
def number (bias k n : Nat) : List Char :=
  let t := threshold k bias
  if n < t then [digit n]
  else digit (t + (n - t) % (36 - t)) :: number bias (k + 36) ((n - t) / (36 - t))
termination_by n
decreasing_by
  have pos := threshold_pos k bias
  calc (n - threshold k bias) / (36 - threshold k bias)
      ≤ n - threshold k bias := Nat.div_le_self _ _
    _ < n := by omega

/-- The state of writing: the distance from the last character written, how
many are written, the bias and the text so far. -/
structure Writing where
  distance : Nat
  written : Nat
  bias : Nat
  out : List Char

/-- Pass by one character of the text while the character `m` is written; `plain`
is the number of ASCII characters. -/
def Writing.pass (plain m : Nat) (s : Writing) (c : Nat) : Writing :=
  if c < m then { s with distance := s.distance + 1 }
  else if c = m then
    { distance := 0, written := s.written + 1
      bias := nextBias s.distance (s.written + 1) (s.written == plain)
      out := s.out ++ number s.bias 36 s.distance }
  else s

/-- Write the characters of an ascending list, from the character `n` on. -/
def Writing.run (plain : Nat) (cs : List Nat) : Nat → Writing → List Nat → Writing
  | _, s, [] => s
  | n, s, m :: rest =>
    let s := { s with distance := s.distance + (m - n) * (s.written + 1) }
    let s := cs.foldl (pass plain m) s
    run plain cs (m + 1) { s with distance := s.distance + 1 } rest

/-- The distinct numbers of an ascending list. -/
def distinct : List Nat → List Nat
  | a :: b :: rest => if a = b then distinct (b :: rest) else a :: distinct (b :: rest)
  | l => l

/-- A text in Punycode. -/
def encode (text : List Char) : List Char :=
  let cs := text.map Char.toNat
  let plain := text.filter fun c => c.toNat < 0x80
  let others := distinct ((cs.filter (0x80 ≤ ·)).mergeSort (· ≤ ·))
  plain ++ (if plain = [] then [] else ['-'])
    ++ (Writing.run plain.length cs 0x80 ⟨0, plain.length, 72, []⟩ others).out

/-! ## §3. Reading. -/

/-- Add digits to a number, up to the digit that ends it; gives what follows. -/
def readNumber (bias : Nat) : List Char → Nat → Nat → Nat → Option (Nat × List Char)
  | [], _, _, _ => none
  | c :: rest, n, weight, k =>
    match value? c with
    | none => none
    | some d =>
      let t := threshold k bias
      if d < t then some (n + d * weight, rest)
      else readNumber bias rest (n + d * weight) (weight * (36 - t)) (k + 36)

theorem readNumber_length {bias n weight k m : Nat} {cs rest : List Char}
    (h : readNumber bias cs n weight k = some (m, rest)) : rest.length < cs.length := by
  induction cs generalizing n weight k with
  | nil => simp [readNumber] at h
  | cons c cs ih =>
    simp only [readNumber] at h
    split at h
    · cases h
    · split at h
      · simp only [Option.some.injEq, Prod.mk.injEq] at h
        rw [← h.2, List.length_cons]
        exact Nat.lt_succ_self _
      · exact Nat.lt_trans (ih h) (Nat.lt_succ_self _)

/-- The state of reading: the text so far, the character and the place from
which the next one is counted, and the bias. -/
structure Reading where
  out : List Char
  char : Nat
  place : Nat
  bias : Nat
  first : Bool

/-- Put the further characters of a text at their places. -/
def Reading.run (r : Reading) (digits : List Char) : Option (List Char) :=
  if digits = [] then some r.out
  else
    match _ : readNumber r.bias digits r.place 1 36 with
    | none => none
    | some (distance, rest) =>
      let length := r.out.length + 1
      let char := r.char + distance / length
      let place := distance % length
      if char.isValidChar then
        run ⟨r.out.insertIdx place (Char.ofNat char), char, place + 1,
          nextBias (distance - r.place) length r.first, false⟩ rest
      else none
termination_by digits.length
decreasing_by exact readNumber_length (by assumption)

/-- The text that Punycode stands for. -/
def decode? (code : List Char) : Option (List Char) :=
  let digits := (code.reverse.takeWhile (· ≠ '-')).reverse
  let plain := code.take (code.length - digits.length - 1)
  Reading.run ⟨plain, 0x80, 0, 72, true⟩ (if plain = [] then code else digits)

end Dashboard.Text.Punycode
