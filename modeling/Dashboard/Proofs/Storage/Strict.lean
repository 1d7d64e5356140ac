/-
  Dashboard.Proofs.Storage.Strict
  ───────────────────────────────
  **WHAT STRICT MODE ACCEPTS IS LOADED AS IT IS.**

  A store reads its slots in safe mode and takes a blank text for no text.
  Neither of the two changes what a text that strict mode accepts says: the
  modes read it as one document, and a blank text is no JSON, so that it is
  accepted in no mode.

  Main results:
    readNormal_of_blank  — a blank text is no JSON
    parse_safe_of_strict — the two modes read one document
    readSlot_of_strict   — a slot gives it
    load_of_draft        — a draft of its own, not older, is the working copy
-/
import Dashboard.Proofs.Document.Migration
import Dashboard.Proofs.Document.Modes
import Dashboard.Proofs.Json.Lexing
import Dashboard.Proofs.Storage.Load

namespace Dashboard

open Time

/-! ## §1. Blank texts. -/

namespace Json

open Text

theorem ne_of_blank {c d : Char} (hc : isBlank c = true) (hd : isBlank d = false) : c ≠ d := by
  rintro rfl
  exact nomatch hd.symm.trans hc

theorem isDigit_of_blank {c : Char} (hc : isBlank c = true) : c.isDigit = false := by
  by_contra hdigit
  simp only [Bool.not_eq_false, Char.isDigit, Bool.and_eq_true, decide_eq_true_eq] at hdigit
  simp only [isBlank, Bool.or_eq_true, Bool.and_eq_true, decide_eq_true_eq, beq_iff_eq] at hc
  have hlow : 48 ≤ c.toNat := hdigit.1
  have hhigh : c.toNat ≤ 57 := hdigit.2
  omega

/-- No number begins with a blank character. -/
theorem scanNumber_of_blank {c : Char} (hc : isBlank c = true) (rest : List Char) :
    scanNumber (c :: rest) = none := by
  have hspan : spanDigits (c :: rest) = ([], c :: rest) := by
    simp [spanDigits, isDigit_of_blank hc]
  have hinteger : scanInteger (c :: rest) = none := by
    unfold scanInteger
    split
    next hzero => exact absurd (List.cons.inj hzero).1 (ne_of_blank hc rfl)
    next => rw [hspan]
  unfold scanNumber
  split
  next hminus => exact absurd (List.cons.inj hminus).1 (ne_of_blank hc rfl)
  next => rw [scanLiteral, hinteger]; rfl

/-- No lexeme begins with a blank character. -/
theorem scanToken_of_blank {c : Char} (hc : isBlank c = true) (rest : List Char) :
    scanToken c rest = none := by
  unfold scanToken
  split
  all_goals first
    | exact absurd rfl (ne_of_blank hc rfl)
    | rw [scanNumber_of_blank hc]; rfl

/-- A blank text has no lexeme, where it can be split into lexemes at all. -/
theorem lex_of_blank {cs : List Char} (h : isBlankList cs = true) :
    lex cs = some [] ∨ lex cs = none := by
  induction cs with
  | nil => exact Or.inl (by rw [lex])
  | cons c rest ih =>
      obtain ⟨hc, hrest⟩ := (Bool.and_eq_true _ _).mp h
      by_cases hspace : isSpace c = true
      · rw [lex_of_space hspace]
        exact ih hrest
      · -- a blank character that JSON does not skip
        right
        rw [lex, if_neg hspace, scanToken_of_blank hc]

/-- **A blank text is no JSON.** -/
theorem readNormal_of_blank {s : String} (h : isBlankText s = true) : readNormal s = none := by
  rw [readNormal, readWritten]
  rcases lex_of_blank h with hlex | hlex
  · rw [hlex]
    rfl
  · rw [hlex]
    rfl

end Json

/-! ## §2. The two modes. -/

/-- **The two modes read one document** where strict mode accepts it. -/
theorem parse_safe_of_strict {o : ValidationOptions} {now : Instant} {text : String}
    {v : Validated} (h : parseAndValidate (o.inMode .strict) now text = .ok v) :
    parseAndValidate (o.inMode .safe) now text = .ok v := by
  unfold parseAndValidate at h ⊢
  cases hread : Json.readNormal text with
  | none =>
      rw [hread] at h
      cases h
  | some doc =>
      rw [hread] at h
      dsimp only at h ⊢
      cases hm : migrate now doc with
      | error e =>
          rw [migrateAndValidate_of_error hm] at h
          cases h
      | ok m =>
          rw [migrateAndValidate_of_ok hm] at h ⊢
          -- the migration is the same in both modes
          cases hdoc : validate (o.inMode .strict) now m.document with
          | error e =>
              rw [hdoc] at h
              cases h
          | ok r =>
              rw [hdoc] at h
              rw [(validate_safe_of_strict hdoc).2]
              exact h

theorem not_blank_of_parse {o : ValidationOptions} {now : Instant} {text : String}
    {v : Validated} (h : parseAndValidate o now text = .ok v) : Text.isBlankText text = false := by
  by_contra hblank
  rw [parseAndValidate, Json.readNormal_of_blank (by simpa using hblank)] at h
  cases h

namespace Store

/-! ## §3. Slots. -/

variable {s : Store} {key text : String} {now : Instant}

/-- **A slot gives the document** that strict mode reads in its text. -/
theorem readSlot_of_strict {v : Validated} (safe : s.options.mode = .safe)
    (hget : s.backend.get key = .ok (some text))
    (hparse : parseAndValidate (s.options.inMode .strict) now text = .ok v) :
    (s.readSlot now key).workspace = some v.workspace := by
  have hsafe : s.options.inMode .safe = s.options := by rw [← safe]; rfl
  have hread := parse_safe_of_strict hparse
  rw [hsafe] at hread
  rw [readSlot, hget]
  simp only [not_blank_of_parse hread, Bool.false_eq_true, if_false]
  rw [readText_workspace, hread]
  rfl

/-- **A draft of its own that is not older** is the working copy, and the store
stays as it is. -/
theorem load_of_draft {base draft : Workspace}
    (hbase : (s.loadCommitted now).workspace = some base)
    (hdraft : (s.loadDraft now).workspace = some draft) (hown : draft.sameContent base = false)
    (hnot : Rfc3339.isBefore draft.updatedAt base.updatedAt = false) :
    ∃ issues, s.load now = (⟨some draft, some base, .draft, issues⟩, s) := by
  refine ⟨(s.loadCommitted now).issues ++ (s.loadDraft now).issues, ?_⟩
  rw [load, reconcile, hbase, hdraft]
  dsimp only
  rw [hown, hnot]
  rfl

end Store

end Dashboard
