import ScriptBench.Proofs.Data.Sorted
import ScriptBench.Proofs.Suite.Folder

/-! Which saves an owner's tests come from. In memory they are the owner's own last ones. In files they are the last
ones of anybody with the same file name, so two owners are apart just if their file names are. -/
namespace ScriptBench

structure Save where
  owner : String
  tests : List Test

def Save.IsDated (s : Save) : Prop := ∀ t ∈ s.tests, t.IsDated

/-- The last save by an owner of a kind. The saves stand in a list with the last one in front. -/
def lastSave? (mine : String → Bool) (done : List Save) : Option Save := done.find? fun s => mine s.owner

/-- The tests that were saved last by an owner of a kind. -/
def lastSaved (mine : String → Bool) (done : List Save) : List Test :=
  ((lastSave? mine done).map (·.tests)).getD []

theorem lastSave?_cons (mine : String → Bool) (s : Save) (done : List Save) :
    lastSave? mine (s :: done) = if mine s.owner then some s else lastSave? mine done := by
  unfold lastSave?
  rw [List.find?_cons]
  cases mine s.owner <;> rfl

theorem lastSaved_cons (mine : String → Bool) (s : Save) (done : List Save) :
    lastSaved mine (s :: done) = if mine s.owner then s.tests else lastSaved mine done := by
  unfold lastSaved
  rw [lastSave?_cons]
  cases mine s.owner <;> rfl

theorem lastSaved_congr {mine other : String → Bool} {done : List Save}
    (h : ∀ s ∈ done, mine s.owner = other s.owner) : lastSaved mine done = lastSaved other done := by
  induction done with
  | nil => rfl
  | cons s done ih =>
    rw [lastSaved_cons, lastSaved_cons, h s (by simp), ih fun s' hs' => h s' (by simp [hs'])]

namespace Store

variable {σ : Type} (store : Store σ)

/-- Makes one save more. If it is done, it is put in front of the saves that were done before. -/
def advance (p : List Save × σ) (s : Save) : List Save × σ :=
  match store.save s.owner s.tests p.2 with
  | (.ok _, state) => (s :: p.1, state)
  | (.error _, state) => (p.1, state)

section

variable {store : Store σ} {done : List Save} {state state' : σ} {s : Save}

theorem advance_of_ok (h : store.save s.owner s.tests state = (.ok (), state')) :
    store.advance (done, state) s = (s :: done, state') := by
  rw [advance, h]

theorem advance_of_error {e : StoreError} (h : store.save s.owner s.tests state = (.error e, state')) :
    store.advance (done, state) s = (done, state') := by
  rw [advance, h]

end

/-- Makes saves one after the other, whatever becomes of each. Gives those that were done and what they leave. -/
def replay (history : List Save) (state : σ) : List Save × σ := history.foldl store.advance ([], state)

theorem replay_concat (history : List Save) (s : Save) (state : σ) :
    store.replay (history ++ [s]) state = store.advance (store.replay history state) s := by
  rw [replay, List.foldl_append]
  rfl

/-- What holds at first and is kept by each save holds behind a history. -/
theorem replay_induction {P : List Save → σ → Prop} {history : List Save} {state : σ} (hstart : P [] state)
    (hstep : ∀ s ∈ history, ∀ done state, P done state →
      P (store.advance (done, state) s).1 (store.advance (done, state) s).2) :
    P (store.replay history state).1 (store.replay history state).2 := by
  have hfrom : ∀ (p : List Save × σ) (history : List Save), P p.1 p.2 →
      (∀ s ∈ history, ∀ done state, P done state →
        P (store.advance (done, state) s).1 (store.advance (done, state) s).2) →
      P (history.foldl store.advance p).1 (history.foldl store.advance p).2 := by
    intro p history hp hstep
    induction history generalizing p with
    | nil => exact hp
    | cons s history ih =>
      exact ih (store.advance p s) (hstep s (by simp) p.1 p.2 hp) fun s' hs' => hstep s' (by simp [hs'])
  exact hfrom ([], state) history hstart hstep

/-! In memory -/

theorem memory_replay_fst (history : List Save) (shelves : Shelves) :
    (memory.replay history shelves).1 = history.reverse := by
  have hfrom : ∀ (p : List Save × Shelves) (history : List Save),
      (history.foldl memory.advance p).1 = history.reverse ++ p.1 := by
    intro p history
    induction history generalizing p with
    | nil => rfl
    | cons s history ih =>
      rw [List.foldl_cons, ih, List.reverse_cons, List.append_assoc]
      rfl
  rw [replay, hfrom, List.append_nil]

theorem memory_load_replay (history : List Save) (b : String) :
    memory.load b (memory.replay history .empty).2 = .ok (lastSaved (· == b) (memory.replay history .empty).1) := by
  refine memory.replay_induction (P := fun done shelves => memory.load b shelves = .ok (lastSaved (· == b) done))
    rfl ?_
  intro s _ done shelves h
  change Except.ok (((Dictionary.insert shelves s.owner s.tests).get? b).getD []) =
    .ok (lastSaved (· == b) (s :: done))
  rw [lastSaved_cons]
  by_cases hb : s.owner = b
  · rw [if_pos (beq_iff_eq.2 hb), ← hb, Dictionary.get?_insert_self]
    rfl
  · rw [if_neg fun heq => hb (beq_iff_eq.1 heq), Dictionary.get?_insert_of_ne (Ne.symm hb)]
    exact h

/-! In files -/

/-- Whether two owners have the same file. -/
def sharesFile (b a : String) : Bool := plainName a == plainName b

theorem sharesFile_iff {a b : String} : sharesFile b a = true ↔ plainName a = plainName b := beq_iff_eq

/-- What stands in the place of an owner behind the saves that were done: the last of them under its file name. -/
structure Stands (f : Folder) (b : String) (done : List Save) (d : Disk) : Prop where
  dated : ∀ s ∈ done, s.IsDated
  nobody : lastSave? (sharesFile b) done = none → d.find? (f.place b) = none
  last : ∀ s, lastSave? (sharesFile b) done = some s → d.Leads f.path (fileName b) ∧
    d.find? (f.place b) = some (.file (Text.encodeUtf8 (writeTests s.tests)))

variable {f : Folder} {b : String} {done : List Save} {d : Disk}

theorem Stands.load (h : Stands f b done d) : (files f).load b d = .ok (lastSaved (sharesFile b) done) := by
  unfold lastSaved
  cases hlast : lastSave? (sharesFile b) done with
  | none => exact Folder.load_of_none (h.nobody hlast)
  | some s =>
    obtain ⟨hleads, hfile⟩ := h.last s hlast
    exact Folder.load_of_file hleads hfile (h.dated s (List.mem_of_find?_eq_some hlast))

/-- A save that leaves the place of an owner alone leaves standing what stands there. -/
theorem Stands.of_saved {a : String} {tests : List Test} {r : Except StoreError Unit} {d' : Disk}
    (hclear : f.IsClear) (h : Stands f b done d) (hsaved : f.Saved a tests r d d')
    (hb : r = .ok () → plainName a ≠ plainName b) : Stands f b done d' := by
  have hplace := hsaved.find?_place hclear hb
  refine ⟨h.dated, fun hnobody => ?_, fun s hlast => ?_⟩
  · rw [hplace, h.nobody hnobody]
  · obtain ⟨hleads, hfile⟩ := h.last s hlast
    exact ⟨hsaved.changes.grows.leads hleads, by rw [hplace, hfile]⟩

theorem Stands.advance (hclear : f.IsClear) (h : Stands f b done d) {s : Save} (hs : s.IsDated) :
    Stands f b ((files f).advance (done, d) s).1 ((files f).advance (done, d) s).2 := by
  rcases hsave : f.save s.owner s.tests d with ⟨r, d'⟩
  have hsaved := Folder.saved_save hsave
  cases r with
  | error e =>
    rw [advance_of_error hsave]
    exact h.of_saved hclear hsaved (nomatch ·)
  | ok _ =>
    rw [advance_of_ok hsave]
    have hdated : ∀ s' ∈ s :: done, s'.IsDated := List.forall_mem_cons.2 ⟨hs, h.dated⟩
    by_cases hb : plainName s.owner = plainName b
    · have hlast : lastSave? (sharesFile b) (s :: done) = some s := by
        rw [lastSave?_cons, if_pos (sharesFile_iff.2 hb)]
      have hplace : f.place s.owner = f.place b := Folder.place_inj.2 hb
      have hname : fileName s.owner = fileName b := fileName_inj.2 hb
      refine ⟨hdated, fun hnobody => ?_, fun s' hs' => ?_⟩
      · rw [hlast] at hnobody
        cases hnobody
      · rw [hlast] at hs'
        cases hs'
        exact ⟨hname ▸ hsaved.leads rfl, hplace ▸ hsaved.file rfl⟩
    · have hlast : lastSave? (sharesFile b) (s :: done) = lastSave? (sharesFile b) done := by
        rw [lastSave?_cons, if_neg fun hshares => hb (sharesFile_iff.1 hshares)]
      have hstands := h.of_saved hclear hsaved fun _ => hb
      exact ⟨hdated, hlast ▸ hstands.nobody, hlast ▸ hstands.last⟩

/-- Behind every history the last done save under an owner's file name is loaded. -/
theorem files_load_replay (hclear : f.IsClear) (hfresh : f.IsFresh d) {history : List Save}
    (hdated : ∀ s ∈ history, s.IsDated) (b : String) :
    (files f).load b ((files f).replay history d).2 =
      .ok (lastSaved (sharesFile b) ((files f).replay history d).1) := by
  have hstart : Stands f b [] d := ⟨by simp, fun _ => hfresh b, fun s hs => nomatch hs⟩
  have hstands := (files f).replay_induction (P := fun done d => Stands f b done d) hstart
    fun s hs done d h => h.advance hclear (hdated s hs)
  exact hstands.load

/-! Owners who share a file -/

/-- The folder that is the root itself. -/
def bare : Folder := ⟨⟨[], ""⟩⟩

theorem isClear_bare : bare.IsClear := Folder.isClear_of_no_up (by decide)

theorem isFresh_bare : bare.IsFresh .empty := by
  intro owner
  have hne : bare.place owner ≠ [] := by simp [Folder.place]
  rw [Disk.find?, if_neg hne]
  rfl

/-- On a disk without mishaps tests are saved if the temporary name fits. -/
theorem save_bare {a : String} (h : Path.fits (temporaryName a) = true) (tests : List Test) :
    ∃ d, bare.save a tests .empty = (.ok (), d) :=
  Folder.save_ok rfl rfl
    (Disk.leads_start (isPlain_temporaryName a) .empty (fun _ => isNameChar_of_mem_temporaryName) h)
    (Disk.leads_start (isPlain_fileName a) .empty (fun _ => isNameChar_of_mem_fileName) (fits_fileName h)) (by decide)
    rfl (isFresh_bare a)

/-- One save on a disk without entries is done, and loaded by everybody with the same file name. -/
theorem exists_replay_bare {a : String} (hfits : Path.fits (temporaryName a) = true) {tests : List Test}
    (hdated : Save.IsDated ⟨a, tests⟩) :
    ∃ d, (files bare).replay [⟨a, tests⟩] .empty = ([⟨a, tests⟩], d) ∧
      ∀ b, plainName a = plainName b → (files bare).load b d = .ok tests := by
  obtain ⟨d, hsave⟩ := save_bare hfits tests
  have hreplay : (files bare).replay [⟨a, tests⟩] .empty = ([⟨a, tests⟩], d) := advance_of_ok hsave
  refine ⟨d, hreplay, fun b hname => ?_⟩
  have hload := files_load_replay isClear_bare isFresh_bare (List.forall_mem_singleton.2 hdated) b
  rw [hreplay] at hload
  rw [hload, lastSaved_cons, if_pos (sharesFile_iff.2 hname)]

/-- A test that was never run. -/
def sample : Test := .fresh (.version4 0) "first" (some "test_a") "def test_a(): pass"

theorem isDated_sample : sample.IsDated := fun _ hi => nomatch hi

/-- Two owners are apart if no save of the one changes what the other loads, whatever was saved before. -/
def AreApart (a b : String) : Prop :=
  ∀ (f : Folder) (d : Disk) (history : List Save) (tests : List Test), f.IsClear → f.IsFresh d →
    (∀ s ∈ history ++ [⟨a, tests⟩], s.IsDated) →
    (files f).load b ((files f).replay (history ++ [⟨a, tests⟩]) d).2 = (files f).load b ((files f).replay history d).2

/-- Two owners are apart just if their file names are, or if the name is too long to save under. -/
theorem areApart_iff {a b : String} :
    AreApart a b ↔ (plainName a = plainName b → Path.fits (temporaryName a) = false) := by
  constructor
  · intro happart hname
    cases hfits : Path.fits (temporaryName a) with
    | false => rfl
    | true =>
      have hdated : Save.IsDated ⟨a, [sample]⟩ := List.forall_mem_singleton.2 isDated_sample
      have hsame := happart bare .empty [] [sample] isClear_bare isFresh_bare (List.forall_mem_singleton.2 hdated)
      have hbefore := @files_load_replay bare .empty isClear_bare isFresh_bare [] (by simp) b
      obtain ⟨d', hreplay, hbehind⟩ := exists_replay_bare hfits hdated
      rw [List.nil_append, hreplay, hbehind b hname, hbefore] at hsame
      cases hsame
  · intro hname f d history tests hclear hfresh hdated
    have hbefore := files_load_replay hclear hfresh (fun s hs => hdated s (List.mem_append_left _ hs)) b
    have hbehind := files_load_replay hclear hfresh hdated b
    rw [hbefore, hbehind, replay_concat]
    rcases (files f).replay history d with ⟨done, d₁⟩
    rcases hsave : f.save a tests d₁ with ⟨r, d₂⟩
    cases r with
    | error e => rw [advance_of_error hsave]
    | ok _ =>
      have hfits := (Folder.saved_save hsave).fits rfl
      have hother : sharesFile b a = false := by
        rw [Bool.eq_false_iff]
        intro hshares
        rw [hname (sharesFile_iff.1 hshares)] at hfits
        cases hfits
      rw [advance_of_ok hsave, lastSaved_cons, hother]
      rfl

/-- In memory every save is done, and an owner loads the own last one. In files an owner loads the last done save
under the own file name. It is the own last one if nobody else has used that name, and two owners are apart just if
their file names are, or if the name is too long to save under. -/
theorem load_isolated_iff {f : Folder} {d d' : Disk} {history done : List Save} (hclear : f.IsClear)
    (hfresh : f.IsFresh d) (hdated : ∀ s ∈ history, s.IsDated) (hreplay : (files f).replay history d = (done, d'))
    (a b : String) :
    (memory.replay history .empty).1 = history.reverse ∧
    memory.load b (memory.replay history .empty).2 = .ok (lastSaved (· == b) history.reverse) ∧
    (files f).load b d' = .ok (lastSaved (sharesFile b) done) ∧
    ((files f).load b d' = .ok (lastSaved (· == b) done) ↔
      lastSaved (sharesFile b) done = lastSaved (· == b) done) ∧
    ((∀ s ∈ done, plainName s.owner = plainName b → s.owner = b) →
      (files f).load b d' = .ok (lastSaved (· == b) done)) ∧
    (AreApart a b ↔ (plainName a = plainName b → Path.fits (temporaryName a) = false)) := by
  have hmemory := memory_load_replay history b
  rw [memory_replay_fst] at hmemory
  have hload := files_load_replay hclear hfresh hdated b
  rw [hreplay] at hload
  refine ⟨memory_replay_fst history .empty, hmemory, hload, ?_, fun hown => ?_, areApart_iff⟩
  · rw [hload, Except.ok.injEq]
  · rw [hload, lastSaved_congr fun s hs => ?_]
    rw [Bool.eq_iff_iff, sharesFile_iff, beq_iff_eq]
    exact ⟨hown s hs, congrArg plainName⟩

/-- An owner with a file of her own loads what she saved, and nobody else does. -/
theorem load_isolated_iff_ana_ben :
    ∃ d : Disk, bare.IsClear ∧ bare.IsFresh .empty ∧ Save.IsDated ⟨"ana", [sample]⟩ ∧
      (files bare).replay [⟨"ana", [sample]⟩] .empty = ([⟨"ana", [sample]⟩], d) ∧
      (files bare).load "ana" d = .ok [sample] ∧ (files bare).load "ben" d = .ok [] ∧ AreApart "ana" "ben" := by
  have hdated : Save.IsDated ⟨"ana", [sample]⟩ := List.forall_mem_singleton.2 isDated_sample
  have hana : plainName "ana" = "ana" := plainName_of_all (by decide)
  have hben : plainName "ben" = "ben" := plainName_of_all (by decide)
  have hfits : Path.fits (temporaryName "ana") = true := by
    rw [temporaryName, hana]
    decide
  have hne : plainName "ana" ≠ plainName "ben" := by
    rw [hana, hben]
    decide
  obtain ⟨d, hreplay, _⟩ := exists_replay_bare hfits hdated
  have hisolated := load_isolated_iff isClear_bare isFresh_bare (List.forall_mem_singleton.2 hdated) hreplay
  obtain ⟨_, _, hown, _⟩ := hisolated "ana" "ana"
  obtain ⟨_, _, hother, _, _, happart⟩ := hisolated "ana" "ben"
  refine ⟨d, isClear_bare, isFresh_bare, hdated, hreplay, ?_, ?_, happart.2 (absurd · hne)⟩
  · rw [hown, lastSaved_cons, if_pos (sharesFile_iff.2 rfl)]
  · rw [hother, lastSaved_cons, if_neg fun hshares => hne (sharesFile_iff.1 hshares)]
    rfl

/-- Two owners whose names differ in a point and an underscore have the same file. The one who never saved loads
what the other one did. -/
theorem load_unsaved :
    ∃ d : Disk, bare.IsClear ∧ bare.IsFresh .empty ∧ Save.IsDated ⟨"a.b", [sample]⟩ ∧ "a.b" ≠ "a_b" ∧
      (files bare).replay [⟨"a.b", [sample]⟩] .empty = ([⟨"a.b", [sample]⟩], d) ∧
      (files bare).load "a_b" d = .ok [sample] ∧
      (files bare).load "a_b" d ≠ .ok (lastSaved (· == "a_b") [⟨"a.b", [sample]⟩]) := by
  have hdated : Save.IsDated ⟨"a.b", [sample]⟩ := List.forall_mem_singleton.2 isDated_sample
  have hname : plainName "a.b" = "a_b" := by
    rw [← String.toList_inj, plainName, String.toList_map]
    decide
  have hname' : plainName "a_b" = "a_b" := plainName_of_all (by decide)
  have hfits : Path.fits (temporaryName "a.b") = true := by
    rw [temporaryName, hname]
    decide
  obtain ⟨d, hreplay, hload⟩ := exists_replay_bare hfits hdated
  have hshared := hload "a_b" (hname.trans hname'.symm)
  refine ⟨d, isClear_bare, isFresh_bare, hdated, by decide, hreplay, hshared, ?_⟩
  rw [hshared, lastSaved_cons, if_neg (by decide)]
  intro heq
  cases heq

end Store

end ScriptBench
