/-
  Dashboard.Proofs.Storage.Media
  ──────────────────────────────
  **A BACKEND THAT DOES NOT FAIL IS A MAP.**

  Memory and file are two media for one map from keys to texts.  `Holds` ties
  a backend to the map that it stands for, and each call has one equation on
  that side: reading looks up, writing inserts, dropping erases.  For a file
  this is where its text is printed and read again.

  A backend that fails, or a file that is no map, still keeps its keys apart:
  whatever a call answers, it leaves the texts under all other keys alone.

  Main results:
    readMap_writeMap — the octets of a file are read back
    Holds.get, Holds.set, Holds.remove
    text?_set, text?_set_of_ne, text?_remove_of_ne — any backend, key by key
-/
import Dashboard.Proofs.Json.Reading
import Dashboard.Proofs.Keyed
import Dashboard.Proofs.Text.Utf8
import Dashboard.Storage.Store

namespace Dashboard

open Json

/-! ## §1. Media. -/

/-- The medium holds exactly these entries. -/
def Medium.Holds (m : Medium) (e : Keyed String) : Prop :=
  match m with
  | .memory entries => entries = e
  | .file path octets => StorageFile.readMap path octets = .ok e

namespace StorageFile

/-- The members of a file's object. -/
def members (e : Keyed String) : Members := e.map fun (k, s) => (k, .text s)

/-- A map of texts written as an object is one of texts. -/
theorem textMembers?_members (e : Keyed String) : textMembers? (members e) = some e := by
  induction e with
  | nil => rfl
  | cons p rest ih =>
      obtain ⟨k, s⟩ := p
      show (textMembers? (members rest)).map _ = _
      rw [ih]
      rfl

theorem isWhole_members (e : Keyed String) : allWholeMembers (members e) = true := by
  induction e with
  | nil => rfl
  | cons p rest ih => exact ih

/-- Its values are no containers. -/
theorem memberDepth_members (e : Keyed String) : memberDepth (members e) = 0 := by
  induction e with
  | nil => rfl
  | cons p rest ih =>
      show max 0 (memberDepth (members rest)) = 0
      rw [ih]
      rfl

/-- A map is never written as a blank text. -/
theorem isBlank_textOf (e : Keyed String) : Text.isBlankText (textOf e) = false := by
  have hopen : ∃ more, (Value.object (members e)).layout 0 = '\x7b' :: more := by
    cases e with
    | nil => exact ⟨_, rfl⟩
    | cons p rest => exact ⟨_, rfl⟩
  obtain ⟨more, hmore⟩ := hopen
  show Text.isBlankList (String.ofList ((Value.object (members e)).layout 0)).toList = false
  rw [String.toList_ofList, hmore]
  rfl

/-- A map in key order is read back from its text. -/
theorem entries?_textOf {e : Keyed String} (h : e.Sorted) : entries? (textOf e) = some e := by
  have hdepth : (Value.object (members e)).depth ≤ nestingLimit := by
    rw [Value.depth, memberDepth_members]
    decide
  -- an object of texts: no number, no nesting
  have hread : readWritten (textOf e) = some (.object (members e)) :=
    readWritten_pretty (isWhole_members e) hdepth
  rw [entries?, hread]
  show (textMembers? (members e)).map Keyed.ofList = _
  rw [textMembers?_members]
  exact congrArg some (Keyed.ofList_of_sorted h)

/-- **The octets of a file are read back** as the entries that were written. -/
theorem readMap_writeMap (path : String) {e : Keyed String} (h : e.Sorted) :
    readMap path (some (writeMap e)) = .ok e := by
  rw [readMap, writeMap, Text.Utf8.decode?_encode]
  dsimp only
  rw [String.ofList_toList, isBlank_textOf, entries?_textOf h]
  rfl

/-- A map that can be read can be changed. -/
theorem mapToChange_of_readMap {path : String} {octets : Option (List UInt8)}
    {e : Keyed String} (h : readMap path octets = .ok e) : mapToChange path octets = .ok e := by
  rw [mapToChange, h]

end StorageFile

namespace Medium.Holds

variable {m : Medium} {e : Keyed String}

/-- Each key is answered as by the entries. -/
theorem get (h : m.Holds e) (key : String) : m.get key = .ok (e.get? key) := by
  cases m with
  | memory entries =>
      cases (h : entries = e)
      rfl
  | file path octets =>
      rw [Medium.get, (h : StorageFile.readMap path octets = .ok e)]
      rfl

/-- A set takes effect on the entries. -/
theorem set (h : m.Holds e) (sorted : e.Sorted) (key text : String) :
    ∃ m', m.set key text = .ok m' ∧ m'.Holds (e.insert key text) := by
  cases m with
  | memory entries =>
      cases (h : entries = e)
      exact ⟨_, rfl, rfl⟩
  | file path octets =>
      have hchange := StorageFile.mapToChange_of_readMap
        (h : StorageFile.readMap path octets = .ok e)
      refine ⟨.file path (some (StorageFile.writeMap (e.insert key text))), ?_, ?_⟩
      · rw [Medium.set, hchange]
        rfl
      · exact StorageFile.readMap_writeMap path (sorted.insert key text)

/-- So does a removal. -/
theorem remove (h : m.Holds e) (sorted : e.Sorted) (key : String) :
    ∃ m', m.remove key = .ok m' ∧ m'.Holds (e.erase key) := by
  cases m with
  | memory entries =>
      cases (h : entries = e)
      exact ⟨_, rfl, rfl⟩
  | file path octets =>
      cases octets with
      | none =>
          -- no file, no entries, and none is made
          have hempty : e = [] := (Except.ok.inj (h : Except.ok [] = Except.ok e)).symm
          subst hempty
          exact ⟨_, rfl, rfl⟩
      | some octets =>
          have hchange := StorageFile.mapToChange_of_readMap
            (h : StorageFile.readMap path (some octets) = .ok e)
          refine ⟨.file path (some (StorageFile.writeMap (e.erase key))), ?_, ?_⟩
          · rw [Medium.remove, hchange]
            · rfl
            · exact nofun
          · exact StorageFile.readMap_writeMap path (sorted.erase key)

end Medium.Holds

/-! ## §2. Backends. -/

/-- The backend's calls succeed, and it holds these entries. -/
structure Backend.Holds (b : Backend) (e : Keyed String) : Prop where
  reliable : ∀ call key, b.faults call key = none
  medium : b.medium.Holds e
  sorted : e.Sorted

namespace Backend.Holds

variable {b : Backend} {e : Keyed String}

theorem get (h : b.Holds e) (key : String) : b.get key = .ok (e.get? key) := by
  rw [Backend.get, h.reliable]
  exact h.medium.get key

theorem set (h : b.Holds e) (key text : String) :
    ∃ b', b.set key text = (.ok (), b') ∧ b'.Holds (e.insert key text) := by
  obtain ⟨m, hm, hholds⟩ := h.medium.set h.sorted key text
  refine ⟨{ b with medium := m }, ?_, h.reliable, hholds, h.sorted.insert key text⟩
  rw [Backend.set, h.reliable, hm]
  rfl

theorem remove (h : b.Holds e) (key : String) :
    ∃ b', b.remove key = (.ok (), b') ∧ b'.Holds (e.erase key) := by
  obtain ⟨m, hm, hholds⟩ := h.medium.remove h.sorted key
  refine ⟨{ b with medium := m }, ?_, h.reliable, hholds, h.sorted.erase key⟩
  rw [Backend.remove, h.reliable, hm]
  rfl

end Backend.Holds

/-! ## §3. Any medium, key by key. -/

namespace StorageFile

/-- Entries that were read are in key order. -/
theorem sorted_of_entries? {text : String} {e : Keyed String} (h : entries? text = some e) :
    e.Sorted := by
  unfold entries? at h
  split at h
  next m _ =>
    obtain ⟨pairs, -, rfl⟩ := Option.map_eq_some_iff.mp h
    exact Keyed.sorted_ofList pairs
  next => cases h

/-- So is a map that was read. -/
theorem sorted_of_readMap {path : String} {octets : Option (List UInt8)} {e : Keyed String}
    (h : readMap path octets = .ok e) : e.Sorted := by
  unfold readMap at h
  split at h
  next =>
    cases h
    exact List.Pairwise.nil
  next =>
    split at h
    next => cases h
    next =>
      dsimp only at h
      split at h
      next =>
        cases h
        exact List.Pairwise.nil
      next =>
        split at h
        next entries hentries =>
          cases h
          exact sorted_of_entries? hentries
        next => cases h

/-- What a write starts from: the entries of the file, or none where it is no
map. -/
theorem mapToChange_eq_ok {path : String} {octets : Option (List UInt8)} {e : Keyed String}
    (h : mapToChange path octets = .ok e) :
    readMap path octets = .ok e ∨ e = [] ∧ ∃ error, readMap path octets = .error error := by
  unfold mapToChange at h
  split at h
  next hread =>
    cases h
    exact Or.inr ⟨rfl, _, hread⟩
  next => exact Or.inl h

end StorageFile

namespace Medium

/-- The text under a key; none where the medium cannot be read. -/
def text? (m : Medium) (key : String) : Option String :=
  match m.get key with
  | .ok text => text
  | .error _ => none

/-- The text under a key, where the entries are known. -/
theorem Holds.text? {m : Medium} {e : Keyed String} (h : m.Holds e) (key : String) :
    m.text? key = e.get? key := by
  rw [Medium.text?, h.get]

/-- A file after a change of its entries. -/
theorem text?_of_change {path : String} {octets : Option (List UInt8)} {m : Medium}
    {change : Keyed String → Keyed String} (hchange : ∀ e : Keyed String, e.Sorted →
      (change e).Sorted)
    (h : (StorageFile.mapToChange path octets).map (fun entries =>
      Medium.file path (some (StorageFile.writeMap (change entries)))) = .ok m) (key : String) :
    ∃ e : Keyed String, (Medium.file path octets).text? key = e.get? key ∧
      m.text? key = (change e).get? key := by
  cases hmap : StorageFile.mapToChange path octets with
  | error e =>
      rw [hmap] at h
      cases h
  | ok e =>
      rw [hmap] at h
      cases h
      have hafter : ∀ e : Keyed String, e.Sorted →
          (Medium.file path (some (StorageFile.writeMap (change e)))).text? key
            = (change e).get? key := by
        intro e sorted
        have hholds : (Medium.file path (some (StorageFile.writeMap (change e)))).Holds
            (change e) := StorageFile.readMap_writeMap path (hchange e sorted)
        exact hholds.text? key
      rcases StorageFile.mapToChange_eq_ok hmap with hread | ⟨rfl, error, hread⟩
      · have hbefore : (Medium.file path octets).Holds e := hread
        exact ⟨e, hbefore.text? key, hafter e (StorageFile.sorted_of_readMap hread)⟩
      · -- what is no map shows no text, as the empty one does
        refine ⟨[], ?_, hafter [] List.Pairwise.nil⟩
        rw [text?, get, hread]
        rfl

/-- **A write** puts its text under its key, and leaves all other keys alone. -/
theorem text?_set {m m' : Medium} {key text : String} (h : m.set key text = .ok m')
    (k : String) : m'.text? k = if key = k then some text else m.text? k := by
  cases m with
  | memory entries =>
      cases h
      exact Keyed.get?_insert key k text entries
  | file path octets =>
      obtain ⟨e, hbefore, hafter⟩ :=
        text?_of_change (fun e sorted => Keyed.Sorted.insert sorted key text) h k
      rw [hbefore, hafter, Keyed.get?_insert]

/-- **A removal** leaves all other keys alone. -/
theorem text?_remove_of_ne {m m' : Medium} {key k : String} (h : m.remove key = .ok m')
    (hk : k ≠ key) : m'.text? k = m.text? k := by
  cases m with
  | memory entries =>
      cases h
      exact Keyed.get?_erase_of_ne hk entries
  | file path octets =>
      cases octets with
      | none =>
          cases h
          rfl
      | some octets =>
          obtain ⟨e, hbefore, hafter⟩ :=
            text?_of_change (fun e sorted => Keyed.Sorted.erase sorted key) h k
          rw [hbefore, hafter, Keyed.get?_erase_of_ne hk]

end Medium

namespace Backend

variable {b : Backend} {key k text : String}

/-- A text is read where no call fails and it is stored. -/
theorem get_eq_text : b.get key = .ok (some text) ↔
    b.faults .get key = none ∧ b.medium.text? key = some text := by
  unfold get Medium.text?
  cases b.faults .get key with
  | some e => simp
  | none => cases b.medium.get key <;> simp

/-- A backend that fails to write is left as it was. -/
theorem set_error {e : StorageError} (h : (b.set key text).1 = .error e) :
    (b.set key text).2 = b := by
  unfold set at h ⊢
  split
  next => rfl
  next hnone =>
    rw [hnone] at h
    cases hset : b.medium.set key text with
    | ok m =>
        rw [hset] at h
        cases h
    | error e' => rfl

/-- A write that succeeds is found under its key. -/
theorem text?_set (h : (b.set key text).1 = .ok ()) :
    (b.set key text).2.medium.text? key = some text := by
  unfold set at h ⊢
  split at h
  next => cases h
  next =>
    cases hset : b.medium.set key text with
    | error e =>
        rw [hset] at h
        cases h
    | ok m =>
        show m.text? key = some text
        rw [Medium.text?_set hset, if_pos rfl]

/-- A set does not change which later calls fail. -/
theorem set_faults (b : Backend) (key text : String) : (b.set key text).2.faults = b.faults := by
  unfold set
  split
  next => rfl
  next => cases b.medium.set key text <;> rfl

theorem remove_faults (b : Backend) (key : String) : (b.remove key).2.faults = b.faults := by
  unfold remove
  split
  next => rfl
  next => cases b.medium.remove key <;> rfl

/-- Whatever a write answers, all other keys are as before. -/
theorem text?_set_of_ne (hk : k ≠ key) :
    (b.set key text).2.medium.text? k = b.medium.text? k := by
  unfold set
  split
  next => rfl
  next =>
    cases hset : b.medium.set key text with
    | error e => rfl
    | ok m =>
        show m.text? k = b.medium.text? k
        rw [Medium.text?_set hset, if_neg (Ne.symm hk)]

/-- Whatever a removal answers, all other keys are as before. -/
theorem text?_remove_of_ne (hk : k ≠ key) :
    (b.remove key).2.medium.text? k = b.medium.text? k := by
  unfold remove
  split
  next => rfl
  next =>
    cases hremove : b.medium.remove key with
    | error e => rfl
    | ok m => exact Medium.text?_remove_of_ne hremove hk

end Backend

end Dashboard
