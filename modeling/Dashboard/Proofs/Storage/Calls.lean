/-
  Dashboard.Proofs.Storage.Calls
  ──────────────────────────────
  **A FILE ANSWERS AS A MEMORY DOES, UNLESS IT IS NO TEXT.**

  Any sequence of calls, with the file opened anew at any point, is answered
  alike by a file and by a memory with the same entries, and after each call
  the file still shows the entries of the memory.  One step lemma carries this
  along (`Mirrors.step`).

  A file that is a text but no map is replaced by the first write.  A file
  that is no text is not: it cannot be read, and no call ever changes it.

  Main results:
    file_answers_as_memory — call by call, the same answers and entries
    saving_blocked_iff     — the files that can be written, and what a write keeps
-/
import Dashboard.Command.Run
import Dashboard.Proofs.Storage.Media
import Mathlib.Data.List.Forall2

namespace Dashboard

open Text

/-! ## §1. What a file shows. -/

namespace StorageFile

/-- A file shows entries: there is none, or it is a text, which is blank or
writes them. -/
def Shows (octets : Option (List UInt8)) (e : Keyed String) : Prop :=
  match octets with
  | none => e = []
  | some octets => ∃ cs, Utf8.decode? octets = some cs ∧
      if isBlankText (String.ofList cs) then e = [] else entries? (String.ofList cs) = some e

/-- There is no file, or it is a text. -/
def IsText (octets : Option (List UInt8)) : Prop :=
  ∀ found ∈ octets, (Utf8.decode? found).isSome = true

instance (octets : Option (List UInt8)) : Decidable (IsText octets) :=
  inferInstanceAs (Decidable (∀ found ∈ octets, (Utf8.decode? found).isSome = true))

theorem isText_none : IsText none := nofun

/-- Why a file that is no text cannot be read. -/
def notText : StorageError := .io "stream did not contain valid UTF-8"

variable {path : String} {octets : Option (List UInt8)} {e : Keyed String}

/-- **The three ways to read a file**: it is no text, it is a text that is no
map, or it shows entries, which are read. -/
theorem readMap_cases (path : String) (octets : Option (List UInt8)) :
    (¬IsText octets ∧ readMap path octets = .error notText ∧ ∀ e, ¬Shows octets e) ∨
    (IsText octets ∧ (∃ reason, readMap path octets = .error (.corruption reason)) ∧
      ∀ e, ¬Shows octets e) ∨
    (IsText octets ∧ ∃ e, readMap path octets = .ok e ∧ ∀ e', Shows octets e' ↔ e' = e) := by
  cases octets with
  | none => exact Or.inr (Or.inr ⟨isText_none, [], rfl, fun _ => Iff.rfl⟩)
  | some found =>
      have htext : IsText (some found) ↔ (Utf8.decode? found).isSome = true :=
        ⟨fun h => h found rfl, fun h _ hother => Option.some.inj hother ▸ h⟩
      rw [htext, readMap]
      unfold Shows
      dsimp only
      cases Utf8.decode? found with
      | none =>
          refine Or.inl ⟨Bool.false_ne_true, rfl, ?_⟩
          rintro e ⟨cs, hdecoded, -⟩
          cases hdecoded
      | some cs =>
          refine Or.inr ?_
          dsimp only
          simp only [Option.some.injEq, exists_eq_left']
          by_cases hblank : isBlankText (String.ofList cs) = true
          · rw [if_pos hblank]
            exact Or.inr ⟨rfl, [], rfl, fun _ => by rw [if_pos hblank]⟩
          · rw [if_neg hblank]
            simp only [if_neg hblank]
            cases entries? (String.ofList cs) with
            | none => exact Or.inl ⟨rfl, ⟨_, rfl⟩, fun e => (Option.some_ne_none e).symm⟩
            | some e => exact Or.inr ⟨rfl, e, rfl, fun _ => by rw [Option.some.injEq, eq_comm]⟩

theorem shows_iff (path : String) : Shows octets e ↔ readMap path octets = .ok e := by
  obtain ⟨-, hread, hshows⟩ | ⟨-, ⟨reason, hread⟩, hshows⟩ | ⟨-, e', hread, hshows⟩ :=
    readMap_cases path octets
  · rw [hread]
    exact iff_of_false (hshows e) nofun
  · rw [hread]
    exact iff_of_false (hshows e) nofun
  · rw [hread, hshows, Except.ok.injEq, eq_comm]

/-- A write starts from every text, and from nothing else. -/
theorem mapToChange_isOk_iff (path : String) :
    (∃ e, mapToChange path octets = .ok e) ↔ IsText octets := by
  unfold mapToChange
  obtain ⟨htext, hread, -⟩ | ⟨htext, ⟨reason, hread⟩, -⟩ | ⟨htext, e, hread, -⟩ :=
    readMap_cases path octets
  · rw [hread]
    exact iff_of_false nofun htext
  · rw [hread]
    exact iff_of_true ⟨[], rfl⟩ htext
  · rw [hread]
    exact iff_of_true ⟨e, rfl⟩ htext

theorem isText_encode (cs : List Char) : IsText (some (Utf8.encode cs)) := by
  intro found hfound
  rw [← Option.some.inj hfound, Utf8.decode?_encode]
  rfl

theorem readMap_of_not_isText (path : String) (h : ¬IsText octets) :
    readMap path octets = .error notText := by
  obtain ⟨-, hread, -⟩ | ⟨htext, -⟩ | ⟨htext, -⟩ := readMap_cases path octets
  · exact hread
  · exact absurd htext h
  · exact absurd htext h

theorem mapToChange_of_not_isText (path : String) (h : ¬IsText octets) :
    mapToChange path octets = .error notText := by
  rw [mapToChange, readMap_of_not_isText path h]
  rfl

theorem sorted_of_mapToChange (h : mapToChange path octets = .ok e) : e.Sorted := by
  rcases mapToChange_eq_ok h with hread | ⟨rfl, -⟩
  · exact sorted_of_readMap hread
  · exact List.Pairwise.nil

end StorageFile

/-! ## §2. The place of a file. -/

namespace Files

variable {f : Files} {path : String} {octets : List UInt8}

/-- A file at a path does not make a directory of that path. -/
theorem isDirectory_put (f : Files) (path : String) (octets : List UInt8) :
    (f.put path octets).isDirectory (FilePath.normal path)
      = f.isDirectory (FilePath.normal path) := by
  let key := FilePath.normal path
  -- a file below it would have a longer name
  have hbelow : (key ++ "/").toList.isPrefixOf key.toList = false := by
    rw [← Bool.not_eq_true, List.isPrefixOf_iff_prefix, String.toList_append]
    intro hbegins
    have hlength := hbegins.length_le
    simp at hlength
  have hany := Keyed.any_insert (fun k => (key ++ "/").toList.isPrefixOf k.toList) key octets
    f.contents
  rw [hbelow, Bool.false_or] at hany
  exact congrArg (key == "" || key == "/" || f.directories.contains key || ·) hany

/-- A file is found where it was put. -/
theorem octetsAt?_put (hfile : f.isDirectory (FilePath.normal path) = false)
    (hslash : FilePath.endsInSlash path = false) :
    Command.octetsAt? (f.put path octets) path = some octets := by
  rw [Command.octetsAt?, look, isDirectory_put, hfile, if_neg Bool.false_ne_true, hslash,
    if_neg Bool.false_ne_true, get?_put]

/-- Where no call fails, the path is no directory's. -/
theorem place_of_faultless (h : ∀ call key, Command.faultsAt f path call key = none) :
    f.isDirectory (FilePath.normal path) = false ∧ FilePath.endsInSlash path = false := by
  have hset := h .set ""
  unfold Command.faultsAt look at hset
  cases hdirectory : f.isDirectory (FilePath.normal path) with
  | true => simp [hdirectory] at hset
  | false =>
      refine ⟨rfl, ?_⟩
      cases hslash : FilePath.endsInSlash path with
      | true => simp [hdirectory, hslash] at hset
      | false => rfl

end Files

/-! ## §3. Calls. -/

/-- A call on a medium, or its opening anew. -/
inductive MediumCall where
  | get (key : String)
  | set (key text : String)
  | remove (key : String)
  | reopen
  deriving DecidableEq, Repr

namespace Medium

/-- A text or nothing, or a failure. -/
abbrev Answer := Except StorageError (Option String)

/-- The answer to a change, and the medium afterwards. -/
def changed (m : Medium) : Except StorageError Medium → Answer × Medium
  | .ok m' => (.ok none, m')
  | .error e => (.error e, m)

/-- The files with the one of a medium among them. -/
def among (f : Files) : Medium → Files
  | .file path (some octets) => f.put path octets
  | _ => f

/-- A file that exists is changed by a removal as by any write. -/
theorem remove_some (path : String) (octets : List UInt8) (key : String) :
    (Medium.file path (some octets)).remove key
      = (StorageFile.mapToChange path (some octets)).map fun e =>
          .file path (some (StorageFile.writeMap (e.erase key))) := rfl

/-- What is found where the file of a medium lies; a memory stays in use. -/
def reopened (f : Files) (m : Medium) : Medium :=
  match m with
  | .file path _ => .file path (Command.octetsAt? (m.among f) path)
  | .memory entries => .memory entries

/-- The answer to a call, and the medium afterwards. -/
def perform (f : Files) (m : Medium) : MediumCall → Answer × Medium
  | .get key => (m.get key, m)
  | .set key text => m.changed (m.set key text)
  | .remove key => m.changed (m.remove key)
  | .reopen => (.ok none, m.reopened f)

/-- The answers to calls one after another, each with the medium after it. -/
def history (f : Files) (m : Medium) : List MediumCall → List (Answer × Medium)
  | [] => []
  | call :: rest => m.perform f call :: history f (m.perform f call).2 rest

end Medium

/-! ## §4. A file and a memory. -/

/-- A file at a path and a memory that has the entries it shows; where there is
no file, none was found among the others. -/
def Mirrors (f : Files) (path : String) (file memory : Medium) : Prop :=
  ∃ octets e, file = .file path octets ∧ memory = .memory e ∧ StorageFile.Shows octets e ∧
    (octets = none → Command.octetsAt? f path = none)

namespace Mirrors

variable {f : Files} {path : String} {file memory : Medium}

theorem written (f : Files) (path : String) {e : Keyed String} (sorted : e.Sorted) :
    Mirrors f path (.file path (some (StorageFile.writeMap e))) (.memory e) :=
  ⟨_, e, rfl, rfl, (StorageFile.shows_iff path).mpr (StorageFile.readMap_writeMap path sorted),
    nofun⟩

/-- **One call**: the answers are the same, and the file still shows the entries
of the memory. -/
theorem step (h : Mirrors f path file memory)
    (hplace : ∀ call key, Command.faultsAt f path call key = none) (call : MediumCall) :
    (file.perform f call).1 = (memory.perform f call).1 ∧
      Mirrors f path (file.perform f call).2 (memory.perform f call).2 := by
  have h' := h
  obtain ⟨octets, e, rfl, rfl, hshows, hnone⟩ := h'
  have hread : StorageFile.readMap path octets = .ok e := (StorageFile.shows_iff path).mp hshows
  have hchange := StorageFile.mapToChange_of_readMap hread
  have sorted : e.Sorted := StorageFile.sorted_of_readMap hread
  cases call with
  | get key => exact ⟨Medium.Holds.get (m := .file path octets) hread key, h⟩
  | set key text =>
      have hset : (Medium.file path octets).set key text
          = .ok (.file path (some (StorageFile.writeMap (e.insert key text)))) := by
        rw [Medium.set, hchange]
        rfl
      rw [Medium.perform, hset]
      exact ⟨rfl, written f path (sorted.insert key text)⟩
  | remove key =>
      cases octets with
      | none =>
          -- no file, no entries, and none is made
          cases (hshows : e = [])
          exact ⟨rfl, h⟩
      | some octets =>
          have hremove : (Medium.file path (some octets)).remove key
              = .ok (.file path (some (StorageFile.writeMap (e.erase key)))) := by
            rw [Medium.remove_some, hchange]
            rfl
          rw [Medium.perform, hremove]
          exact ⟨rfl, written f path (sorted.erase key)⟩
  | reopen =>
      have hfound : Command.octetsAt? ((Medium.file path octets).among f) path = octets := by
        cases octets with
        | none => exact hnone rfl
        | some octets =>
            obtain ⟨hfile, hslash⟩ := Files.place_of_faultless hplace
            exact Files.octetsAt?_put hfile hslash
      refine ⟨rfl, octets, e, ?_, rfl, hshows, hnone⟩
      show Medium.file path (Command.octetsAt? ((Medium.file path octets).among f) path) = _
      rw [hfound]

/-- Any number of calls. -/
theorem run (h : Mirrors f path file memory)
    (hplace : ∀ call key, Command.faultsAt f path call key = none) (calls : List MediumCall) :
    List.Forall₂ (fun x y => x.1 = y.1 ∧ Mirrors f path x.2 y.2) (file.history f calls)
      (memory.history f calls) := by
  induction calls generalizing file memory with
  | nil => exact .nil
  | cons call rest ih =>
      have hstep := h.step hplace call
      exact .cons hstep (ih hstep.2)

end Mirrors

/-- **A file answers as a memory does.**  From a file that is missing, blank or
a map on a memory with its entries, any calls in any order, with the file
opened anew at any points, are answered alike where no call fails; after each
of them the file is missing or blank and the memory empty, or the file is a map
with exactly the entries of the memory. -/
theorem file_answers_as_memory (f : Files) (path : String) (e : Keyed String)
    (hplace : ∀ call key, Command.faultsAt f path call key = none)
    (hstart : StorageFile.Shows (Command.octetsAt? f path) e) (calls : List MediumCall) :
    List.Forall₂
      (fun x y => x.1 = y.1 ∧ ∃ octets e', x.2 = .file path octets ∧ y.2 = .memory e' ∧
        StorageFile.Shows octets e')
      ((Medium.file path (Command.octetsAt? f path)).history f calls)
      ((Medium.memory e).history f calls) := by
  have h : Mirrors f path (.file path (Command.octetsAt? f path)) (.memory e) :=
    ⟨_, e, rfl, rfl, hstart, id⟩
  refine (h.run hplace calls).imp ?_
  rintro x y ⟨hanswer, octets, e', hfile, hmemory, hshows, -⟩
  exact ⟨hanswer, octets, e', hfile, hmemory, hshows⟩

/-- A disk with a blank file. -/
def blankDisk : Files := ⟨[("s.json", Utf8.encode [' '])], []⟩

/-- Keys beyond ASCII, a text that is JSON itself, and a second opening. -/
theorem blankDisk_answers :
    let calls : List MediumCall :=
      [.remove "ключ", .set "ключ" "\x7b\"a\": [1]\x7d", .reopen, .get "ключ", .remove "ключ",
        .get "ключ"]
    (∀ call key, Command.faultsAt blankDisk "s.json" call key = none) ∧
    StorageFile.Shows (Command.octetsAt? blankDisk "s.json") [] ∧
    ((Medium.file "s.json" (Command.octetsAt? blankDisk "s.json")).history blankDisk calls).map
        (·.1) =
      [.ok none, .ok none, .ok none, .ok (some "\x7b\"a\": [1]\x7d"), .ok none, .ok none] := by
  intro calls
  have hplace : ∀ call key, Command.faultsAt blankDisk "s.json" call key = none := by
    intro call key
    cases call <;> rfl
  have hstart : StorageFile.Shows (Command.octetsAt? blankDisk "s.json") [] :=
    ⟨[' '], Utf8.decode?_encode [' '], rfl⟩
  have h := file_answers_as_memory blankDisk "s.json" [] hplace hstart calls
  have hanswers : ((Medium.file "s.json" (Command.octetsAt? blankDisk "s.json")).history blankDisk
      calls).map (·.1) = ((Medium.memory []).history blankDisk calls).map (·.1) := by
    rw [← List.forall₂_eq_eq_eq, List.forall₂_map_left_iff, List.forall₂_map_right_iff]
    exact h.imp fun _ _ hxy => hxy.1
  exact ⟨hplace, hstart, hanswers.trans (by decide)⟩

/-! ## §5. Damage. -/

namespace Medium

variable {path key text : String} {octets : Option (List UInt8)}

theorem set_isOk_iff (path : String) (octets : Option (List UInt8)) (key text : String) :
    (∃ m, (Medium.file path octets).set key text = .ok m) ↔ StorageFile.IsText octets := by
  rw [← StorageFile.mapToChange_isOk_iff path, set]
  cases StorageFile.mapToChange path octets with
  | ok e => exact iff_of_true ⟨_, rfl⟩ ⟨e, rfl⟩
  | error error =>
      constructor
      · rintro ⟨m, h⟩
        cases h
      · rintro ⟨e, h⟩
        cases h

/-- What a file is after a write, and what the write started from. -/
theorem set_file_eq_ok {m : Medium} (h : (Medium.file path octets).set key text = .ok m) :
    ∃ e, StorageFile.mapToChange path octets = .ok e ∧ m.Holds (e.insert key text) := by
  rw [Medium.set] at h
  cases hchange : StorageFile.mapToChange path octets with
  | error error =>
      rw [hchange] at h
      cases h
  | ok e =>
      rw [hchange] at h
      cases h
      have sorted := StorageFile.sorted_of_mapToChange hchange
      exact ⟨e, rfl, StorageFile.readMap_writeMap path (sorted.insert key text)⟩

/-- A file that is no text fails every call, and stays as it is. -/
theorem perform_of_not_isText (htext : ¬StorageFile.IsText octets) (f : Files)
    {call : MediumCall} (hcall : call ≠ .reopen) :
    (Medium.file path octets).perform f call
      = (.error StorageFile.notText, .file path octets) := by
  have hchange := StorageFile.mapToChange_of_not_isText path htext
  cases call with
  | get key =>
      rw [perform, get, StorageFile.readMap_of_not_isText path htext]
      rfl
  | set key text =>
      rw [perform, set, hchange]
      rfl
  | remove key =>
      cases octets with
      | none => exact absurd StorageFile.isText_none htext
      | some found =>
          rw [perform, remove_some, hchange]
          rfl
  | reopen => exact absurd rfl hcall

theorem history_of_not_isText (htext : ¬StorageFile.IsText octets) (f : Files)
    {calls : List MediumCall} (hcalls : .reopen ∉ calls) :
    ∀ x ∈ (Medium.file path octets).history f calls,
      x = (.error StorageFile.notText, .file path octets) := by
  induction calls with
  | nil => exact nofun
  | cons call rest ih =>
      obtain ⟨hcall, hrest⟩ := List.ne_and_not_mem_of_not_mem_cons hcalls
      intro x hx
      rw [history, perform_of_not_isText htext f (Ne.symm hcall)] at hx
      rcases List.mem_cons.mp hx with rfl | hx
      · rfl
      · exact ih hrest x hx

end Medium

/-- **Which files can be written, and what a write keeps.**  A write succeeds
exactly if there is no file or the file is a text.  Its text is then found
under its key, and where the file was a map all other keys have what they had.
A file that is no text is never changed, whatever calls are made, and each of
them fails. -/
theorem saving_blocked_iff (path : String) (octets : Option (List UInt8)) (key text : String) :
    ((∃ m, (Medium.file path octets).set key text = .ok m) ↔ StorageFile.IsText octets) ∧
    (∀ m, (Medium.file path octets).set key text = .ok m →
      m.get key = .ok (some text) ∧
      ∀ e, StorageFile.Shows octets e → ∀ k, k ≠ key → m.get k = .ok (e.get? k)) ∧
    (¬StorageFile.IsText octets → ∀ f calls, .reopen ∉ calls →
      ∀ x ∈ (Medium.file path octets).history f calls,
        x = (.error StorageFile.notText, .file path octets)) := by
  refine ⟨Medium.set_isOk_iff path octets key text, ?_,
    fun htext f _ hcalls => Medium.history_of_not_isText htext f hcalls⟩
  intro m hset
  obtain ⟨e, hchange, hholds⟩ := Medium.set_file_eq_ok hset
  constructor
  · rw [hholds.get, Keyed.get?_insert, if_pos rfl]
  · intro e' hshows k hk
    have hread := (StorageFile.shows_iff path).mp hshows
    rw [StorageFile.mapToChange_of_readMap hread] at hchange
    rw [hholds.get, Keyed.get?_insert, if_neg (Ne.symm hk), Except.ok.inj hchange]

/-- An octet that no text has. -/
def strayOctet : Option (List UInt8) := some [0xFF]

theorem strayOctet_not_isText : ¬StorageFile.IsText strayOctet := by
  intro h
  have hsome := h [0xFF] rfl
  simp [Utf8.decode?, Utf8.steps, Utf8.readChar, Utf8.lead] at hsome

/-- A damaged text is replaced, and a map is added to; what is no text stays. -/
theorem damaged_text_replaced :
    let damaged := some (Utf8.encode "not json".toList)
    let map := some (StorageFile.writeMap [("a", "1")])
    (∃ m, (Medium.file "s.json" damaged).set "k" "v" = .ok m ∧ m.get "k" = .ok (some "v")) ∧
    (∃ m, (Medium.file "s.json" map).set "k" "v" = .ok m ∧ m.get "k" = .ok (some "v") ∧
      m.get "a" = .ok (some "1")) ∧
    ∀ x ∈ (Medium.file "s.json" strayOctet).history blankDisk [.set "k" "v", .get "k"],
      x = (.error StorageFile.notText, .file "s.json" strayOctet) := by
  intro damaged map
  refine ⟨?_, ?_, ?_⟩
  · have h := saving_blocked_iff "s.json" damaged "k" "v"
    obtain ⟨m, hset⟩ := h.1.mpr (StorageFile.isText_encode _)
    exact ⟨m, hset, (h.2.1 m hset).1⟩
  · have h := saving_blocked_iff "s.json" map "k" "v"
    obtain ⟨m, hset⟩ := h.1.mpr (StorageFile.isText_encode _)
    have hmap : StorageFile.Shows map [("a", "1")] :=
      (StorageFile.shows_iff "s.json").mpr (StorageFile.readMap_writeMap "s.json" (by decide))
    exact ⟨m, hset, (h.2.1 m hset).1, (h.2.1 m hset).2 _ hmap "a" (by decide)⟩
  · exact (saving_blocked_iff "s.json" strayOctet "k" "v").2.2 strayOctet_not_isText blankDisk _
      (by decide)

/-- Not every damaged file is replaced: one stray octet blocks the writes. -/
theorem stray_octet_blocks :
    ¬∀ (path : String) (octets : Option (List UInt8)) (key text : String),
      ∃ m, (Medium.file path octets).set key text = .ok m := by
  intro h
  obtain ⟨m, hset⟩ := h "s.json" strayOctet "k" "v"
  rw [Medium.set, StorageFile.mapToChange_of_not_isText _ strayOctet_not_isText] at hset
  cases hset

end Dashboard
