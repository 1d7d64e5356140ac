/-
  Dashboard.Proofs.Text.Utf8
  ──────────────────────────
  **WHAT IS ENCODED IS DECODED.**

  Each of the four lengths of a character is read back by its own run of
  `continueChar`; the ranges of the first two octets tell the lengths apart.
  So both readers give back every text that was encoded.

  Main results:
    readChar_encodeChar — one character
    decode?_encode      — a whole text
-/
import Dashboard.Text.Utf8

namespace Dashboard.Text.Utf8

/-! ## §1. Octets. -/

theorem toNat_ofNat_of_lt {n : Nat} (h : n < 256) : (UInt8.ofNat n).toNat = n :=
  UInt8.toNat_ofNat_of_lt' h

theorem toNat_tailOctet (n : Nat) : (tailOctet n).toNat = 0x80 + n % 64 :=
  toNat_ofNat_of_lt (by omega)

/-- A continuation octet in the range of the next one. -/
theorem continueChar_tailOctet {more low high bits n : Nat} (hlow : low ≤ 0x80 + n % 64)
    (hhigh : 0x80 + n % 64 ≤ high) (rest : List UInt8) :
    continueChar (more + 1) low high bits (tailOctet n :: rest)
      = continueChar more 0x80 0xBF (bits * 64 + n % 64) rest := by
  have hwithin : within low high (tailOctet n) = true := by
    simp [within, toNat_tailOctet, hlow, hhigh]
  have hbits : (0x80 + n % 64) % 64 = n % 64 := by omega
  rw [continueChar, if_pos hwithin, toNat_tailOctet, hbits]

/-! ## §2. One character. -/

/-- A character's number is no surrogate. -/
theorem toNat_bounds (c : Char) : c.toNat < 0xD800 ∨ 0xDFFF < c.toNat ∧ c.toNat < 0x110000 :=
  c.valid

/-- A character of several octets: what the first one announces. -/
theorem readChar_of_lead {b : Nat} (hb : b < 256) (hhigh : ¬ b < 0x80) {l : Lead}
    (hl : lead b = some l) (rest : List UInt8) :
    readChar (UInt8.ofNat b) rest = continueChar l.more l.low l.high l.bits rest := by
  rw [readChar, toNat_ofNat_of_lt hb, if_neg hhigh, hl]

/-- The first of three octets.  The ranges of the second one keep out what
two octets would do for, and the surrogates. -/
theorem lead_of_three {n : Nat} (hlow : 0x800 ≤ n) (hhigh : n < 0x10000)
    (hn : n < 0xD800 ∨ 0xDFFF < n) :
    ∃ low high, lead (0xE0 + n / 4096) = some ⟨2, low, high, n / 4096⟩ ∧
      low ≤ 0x80 + n / 64 % 64 ∧ 0x80 + n / 64 % 64 ≤ high := by
  unfold lead
  by_cases hfirst : n / 4096 = 0
  · exact ⟨0xA0, 0xBF, by rw [hfirst]; rfl, by omega, by omega⟩
  by_cases hsurrogate : n / 4096 = 0xD
  · exact ⟨0x80, 0x9F, by rw [hsurrogate]; rfl, by omega, by omega⟩
  · refine ⟨0x80, 0xBF, ?_, by omega, by omega⟩
    rw [if_neg (by omega), if_neg (by omega), if_neg (by omega), if_pos (by omega),
      Nat.add_sub_cancel_left]

/-- The first of four octets.  The ranges of the second one keep out what
three octets would do for, and numbers past the last character. -/
theorem lead_of_four {n : Nat} (hlow : 0x10000 ≤ n) (hhigh : n < 0x110000) :
    ∃ low high, lead (0xF0 + n / 262144) = some ⟨3, low, high, n / 262144⟩ ∧
      low ≤ 0x80 + n / 4096 % 64 ∧ 0x80 + n / 4096 % 64 ≤ high := by
  unfold lead
  by_cases hfirst : n / 262144 = 0
  · exact ⟨0x90, 0xBF, by rw [hfirst]; rfl, by omega, by omega⟩
  by_cases hlast : n / 262144 = 4
  · exact ⟨0x80, 0x8F, by rw [hlast]; rfl, by omega, by omega⟩
  · refine ⟨0x80, 0xBF, ?_, by omega, by omega⟩
    rw [if_neg (by omega), if_neg (by omega), if_neg (by omega), if_neg (by omega),
      if_neg (by omega), if_pos (by omega), Nat.add_sub_cancel_left]

theorem readChar_two {n : Nat} (hlow : 0x80 ≤ n) (hhigh : n < 0x800) (rest : List UInt8) :
    readChar (UInt8.ofNat (0xC0 + n / 64)) (tailOctet n :: rest) = (.char (Char.ofNat n), rest) := by
  have hlead : lead (0xC0 + n / 64) = some ⟨1, 0x80, 0xBF, n / 64⟩ := by
    rw [lead, if_pos (by omega), Nat.add_sub_cancel_left]
  have hsum : n / 64 * 64 + n % 64 = n := by omega
  rw [readChar_of_lead (by omega) (by omega) hlead]
  show continueChar 1 0x80 0xBF (n / 64) (tailOctet n :: rest) = _
  rw [continueChar_tailOctet (by omega) (by omega), continueChar, hsum]

theorem readChar_three {n : Nat} (hlow : 0x800 ≤ n) (hhigh : n < 0x10000)
    (hn : n < 0xD800 ∨ 0xDFFF < n) (rest : List UInt8) :
    readChar (UInt8.ofNat (0xE0 + n / 4096)) (tailOctet (n / 64) :: tailOctet n :: rest)
      = (.char (Char.ofNat n), rest) := by
  obtain ⟨low, high, hlead, hfrom, hto⟩ := lead_of_three hlow hhigh hn
  have hsum : (n / 4096 * 64 + n / 64 % 64) * 64 + n % 64 = n := by omega
  rw [readChar_of_lead (by omega) (by omega) hlead]
  show continueChar 2 low high (n / 4096) (tailOctet (n / 64) :: tailOctet n :: rest) = _
  rw [continueChar_tailOctet hfrom hto, continueChar_tailOctet (by omega) (by omega),
    continueChar, hsum]

theorem readChar_four {n : Nat} (hlow : 0x10000 ≤ n) (hhigh : n < 0x110000)
    (rest : List UInt8) :
    readChar (UInt8.ofNat (0xF0 + n / 262144))
        (tailOctet (n / 4096) :: tailOctet (n / 64) :: tailOctet n :: rest)
      = (.char (Char.ofNat n), rest) := by
  obtain ⟨low, high, hlead, hfrom, hto⟩ := lead_of_four hlow hhigh
  have hsum : ((n / 262144 * 64 + n / 4096 % 64) * 64 + n / 64 % 64) * 64 + n % 64 = n := by
    omega
  rw [readChar_of_lead (by omega) (by omega) hlead]
  show continueChar 3 low high (n / 262144)
    (tailOctet (n / 4096) :: tailOctet (n / 64) :: tailOctet n :: rest) = _
  rw [continueChar_tailOctet hfrom hto, continueChar_tailOctet (by omega) (by omega),
    continueChar_tailOctet (by omega) (by omega), continueChar, hsum]

/-- **One character is read back**, and nothing after it. -/
theorem readChar_encodeChar (c : Char) (rest : List UInt8) :
    ∃ b more, encodeChar c = b :: more ∧ readChar b (more ++ rest) = (.char c, rest) := by
  have hc := toNat_bounds c
  have hback : Char.ofNat c.toNat = c := Char.ofNat_toNat c
  unfold encodeChar
  dsimp only
  generalize c.toNat = n at hc hback ⊢
  subst hback
  by_cases h1 : n < 0x80
  · refine ⟨UInt8.ofNat n, [], if_pos h1, ?_⟩
    rw [readChar, toNat_ofNat_of_lt (by omega), if_pos h1]
    rfl
  rw [if_neg h1]
  by_cases h2 : n < 0x800
  · exact ⟨_, _, if_pos h2, readChar_two (by omega) h2 rest⟩
  rw [if_neg h2]
  by_cases h3 : n < 0x10000
  · exact ⟨_, _, if_pos h3, readChar_three (by omega) h3 (by omega) rest⟩
  rw [if_neg h3]
  exact ⟨_, _, rfl, readChar_four (by omega) (by omega) rest⟩

/-! ## §3. Whole texts. -/

theorem steps_encode (cs : List Char) : steps (encode cs) = cs.map some := by
  induction cs with
  | nil =>
      show steps [] = []
      rw [steps]
  | cons c rest ih =>
      obtain ⟨b, more, hencode, hread⟩ := readChar_encodeChar c (encode rest)
      have hwhole : encode (c :: rest) = b :: (more ++ encode rest) := by
        show encodeChar c ++ encode rest = _
        rw [hencode, List.cons_append]
      -- one step takes all the octets of the first character
      rw [hwhole, steps, hread, List.map_cons, ih]

/-- **A text that was encoded is decoded.** -/
theorem decode?_encode (cs : List Char) : decode? (encode cs) = some cs := by
  rw [decode?, steps_encode]
  induction cs with
  | nil => rfl
  | cons c rest ih =>
      rw [List.map_cons, List.mapM_cons, ih]
      rfl

end Dashboard.Text.Utf8
