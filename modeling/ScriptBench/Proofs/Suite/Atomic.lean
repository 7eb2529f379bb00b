import ScriptBench.Proofs.Suite.Isolation
import ScriptBench.Proofs.Suite.Standing

/-! A save puts the whole text of the tests into their owner's file, or leaves what stands there. The text is loaded as
the tests that were saved. -/
namespace ScriptBench

namespace Path

/-- A plain name behind a path leads straight into the place where the path leads. -/
theorem home_join (p : Path) {name : String} (h : IsPlain name) : (p.join name).home = p.home ++ [name] := by
  obtain ⟨lead, hparts, hhome⟩ := p.exists_parts_join h
  rw [home, hparts, List.foldl_append, hhome]
  exact follow_of_plain h p.home

end Path

namespace Folder

/-! The text of tests -/

/-- Any number of tests, with any texts and any instants of the calendar to the nanosecond, are loaded in their order as
they were saved. No two lists have the same text. -/
theorem load_reads_saved {tests : List Test} (hdated : ∀ t ∈ tests, t.IsDated) (f : Folder) (owner : String) :
    readTests (writeTests tests) = .ok tests ∧
    (∀ d, d.read (f.file owner) = .ok (Text.encodeUtf8 (writeTests tests)) → f.load owner d = .ok tests) ∧
    (∀ d d', f.save owner tests d = (.ok (), d') →
      d'.read (f.file owner) = .ok (Text.encodeUtf8 (writeTests tests)) ∧ f.load owner d' = .ok tests) ∧
    (∀ others, (∀ t ∈ others, t.IsDated) → writeTests others = writeTests tests → others = tests) := by
  have hread := readTests_writeTests hdated
  have hload : ∀ d, d.read (f.file owner) = .ok (Text.encodeUtf8 (writeTests tests)) → f.load owner d = .ok tests := by
    intro d h
    rw [load_of_read h, hread]
    rfl
  refine ⟨hread, hload, fun d d' hsave => ?_, fun others hothers htext => ?_⟩
  · have hsaved := saved_save hsave
    have hfile := read_of_file (hsaved.leads rfl) (hsaved.file rfl)
    exact ⟨hfile, hload d' hfile⟩
  · have hread' := readTests_writeTests hothers
    rw [htext, hread] at hread'
    cases hread'
    rfl

/-- The last nanosecond of the year 9999. -/
def lastMoment : Time.Instant := ⟨⟨9999, 12, 31⟩, 1439, 59, 999999999⟩

/-- The first instant of the year 0. -/
def firstMoment : Time.Instant := ⟨⟨0, 1, 1⟩, 0, 0, 0⟩

/-- Tests with the odd characters of a text, one without a name, one that was never run. -/
def oddTests : List Test :=
  [⟨.version4 7, "tab\tquote\"back\\slash\x00", some "test_é", "def test_é():\r\n\tpass\u2028", .failed, "𝄞\x7f",
      some lastMoment⟩,
    ⟨.version4 8, "", none, "", .error, "", some firstMoment⟩, ⟨.version4 7, "", none, "\n", .pending, "", none⟩]

theorem load_reads_saved_odd :
    (∀ t ∈ oddTests, t.IsDated) ∧
      ∃ d, Store.bare.save "" oddTests .empty = (.ok (), d) ∧ Store.bare.load "" d = .ok oddTests := by
  have hdated : ∀ t ∈ oddTests, t.IsDated := by
    intro t ht
    simp only [oddTests, List.mem_cons, List.not_mem_nil, or_false] at ht
    rcases ht with rfl | rfl | rfl
    · rintro i ⟨rfl⟩
      decide
    · rintro i ⟨rfl⟩
      decide
    · exact nofun
  have hfits : Path.fits (temporaryName "") = true := by decide
  obtain ⟨d, hsave⟩ := Store.save_bare hfits oddTests
  obtain ⟨_, _, hsaved, _⟩ := load_reads_saved hdated Store.bare ""
  exact ⟨hdated, d, hsave, (hsaved .empty d hsave).2⟩

/-! What a save leaves -/

/-- What stands at a location is left there. Where nothing stands, a directory may be made on the way of the folder. -/
def Leaves (f : Folder) (q : Location) (d d' : Disk) : Prop :=
  d'.find? q = d.find? q ∨
    Path.OnWay f.path.origin f.path.parts q ∧ d.find? q = none ∧ d'.find? q = some .directory

variable {f : Folder} {a b : String} {tests : List Test} {r : Except StoreError Unit} {d d' : Disk}

theorem Leaves.same {q : Location} (h : f.Leaves q d d') (hclear : ¬Path.OnWay f.path.origin f.path.parts q) :
    d'.find? q = d.find? q := h.resolve_right fun hmade => hclear hmade.1

/-- A save leaves every location but the temporary one, and the owner's if it is done. -/
theorem leaves_of_save (h : f.save a tests d = (r, d')) {q : Location}
    (htemporary : q ≠ f.path.home ++ [temporaryName a]) (hplace : r = .ok () → q ≠ f.place a) : f.Leaves q d d' := by
  have hsame : d'.find? q = (d.makeDirectories f.path).2.find? q := by
    refine (changes_of_save h).1.same q ?_
    rintro (hq | ⟨hok, hq⟩)
    · exact htemporary hq
    · exact hplace hok hq
  have hmade := Disk.adds_makeDirectories d f.path q
  rwa [← hsame] at hmade

theorem place_ne_temporary (f : Folder) (a b : String) : f.place b ≠ f.path.home ++ [temporaryName a] := by
  rw [place, ne_eq, List.append_cancel_left_eq, List.cons.injEq, and_iff_left rfl]
  exact fileName_ne_temporaryName b a

theorem place_ne_place (h : fileName b ≠ fileName a) : f.place b ≠ f.place a := by
  rw [place, place, ne_eq, List.append_cancel_left_eq, List.cons.injEq, and_iff_left rfl]
  exact h

theorem leaves_place_of_save (h : f.save a tests d = (r, d')) (hb : r = .ok () → fileName b ≠ fileName a) :
    f.Leaves (f.place b) d d' :=
  leaves_of_save h (f.place_ne_temporary a b) fun hok => place_ne_place (hb hok)

/-- Whatever stands on a disk and whichever changes go wrong: a save that fails leaves the owner's place, one that is
done puts the whole text there, which is then loaded as it reads, and the places of all other file names are left. If
the path of the folder never goes up, all that is left is the same as before, and on a tree it is loaded as before. No
temporary name is a name of a file, and both kinds lead straight into the folder. -/
theorem save_whole_or_nothing (h : f.save a tests d = (r, d')) :
    ((∃ e, r = .error e) → f.Leaves (f.place a) d d') ∧
    (r = .ok () → d'.find? (f.place a) = some (.file (Text.encodeUtf8 (writeTests tests))) ∧
      d'.read (f.file a) = .ok (Text.encodeUtf8 (writeTests tests)) ∧
      f.load a d' = (readTests (writeTests tests)).mapError (.notParsed (f.file a).text)) ∧
    (∀ b, fileName b ≠ fileName a → f.Leaves (f.place b) d d') ∧
    (∀ q, q ≠ f.path.home ++ [temporaryName a] → q ≠ f.place a → f.Leaves q d d') ∧
    (".." ∉ f.path.parts → ∀ b, (r = .ok () → fileName b ≠ fileName a) →
      d'.find? (f.place b) = d.find? (f.place b) ∧ (d.IsTree → f.load b d' = f.load b d)) ∧
    (∀ b c, temporaryName b ≠ fileName c) ∧
    (∀ b, Path.IsPlain (fileName b) ∧ (f.file b).home = f.path.home ++ [fileName b] ∧
      Path.IsPlain (temporaryName b) ∧ (f.temporary b).home = f.path.home ++ [temporaryName b]) := by
  have hsaved := saved_save h
  refine ⟨?_, fun hok => ?_, fun b hb => leaves_place_of_save h fun _ => hb,
    fun q htemporary hplace => leaves_of_save h htemporary fun _ => hplace, fun hup b hb => ?_,
    fun b c heq => fileName_ne_temporaryName c b heq.symm, fun b => ?_⟩
  · rintro ⟨e, rfl⟩
    exact leaves_place_of_save h (nomatch ·)
  · have hfile := read_of_file (hsaved.leads hok) (hsaved.file hok)
    exact ⟨hsaved.file hok, hfile, load_of_read hfile⟩
  · have hsame := (leaves_place_of_save h hb).same (isClear_of_no_up hup b)
    exact ⟨hsame, fun htree => (finds_of_no_up hup htree b).load_eq hsaved.changes.grows hsame⟩
  · exact ⟨isPlain_fileName b, f.path.home_join (isPlain_fileName b), isPlain_temporaryName b,
      f.path.home_join (isPlain_temporaryName b)⟩

/-- A disk with a file of Ana's, on which the next write stops behind a byte. -/
def fullDisk : Disk :=
  ⟨(Disk.empty.plant ["ana.json"] (.file [91, 10, 93])).entries,
    [some (.cutShort 1 (.other 28 "No space left on device"))]⟩

/-- A write that stops half-way leaves a part of the temporary file, and the old file. -/
theorem save_whole_or_nothing_full_disk :
    ∃ e d', Store.bare.save "ana" [] fullDisk = (.error e, d') ∧
      d'.find? ["ana.json.tmp"] = some (.file [91]) ∧ d'.find? ["ana.json"] = some (.file [91, 10, 93]) := by
  have hana : plainName "ana" = "ana" := plainName_of_all (by decide)
  have hplace : Store.bare.place "ana" = ["ana.json"] := by
    rw [place, fileName, hana]
    rfl
  have hsave : ∃ e d', Store.bare.save "ana" [] fullDisk = (.error e, d') ∧
      d'.find? ["ana.json.tmp"] = some (.file [91]) := by
    unfold save file temporary fileName temporaryName
    rw [hana]
    exact ⟨_, _, rfl, rfl⟩
  obtain ⟨e, d', hsave, htemporary⟩ := hsave
  obtain ⟨_, _, _, _, hsame, _⟩ := save_whole_or_nothing hsave
  have hfails : (.error e : Except StoreError Unit) = .ok () → fileName "ana" ≠ fileName "ana" := by
    intro hok
    cases hok
  have hold := (hsame (by decide) "ana" hfails).1
  rw [hplace] at hold
  exact ⟨e, d', hsave, htemporary, hold⟩

/-- A folder whose path leads over the place of Ben's file. -/
def overBen : Folder := ⟨⟨[], "ben.json/.."⟩⟩

/-- The directory that is made on the way takes the place of a file that was not there. It stays there when Ana's save
is done and when Ben's own save fails, and nothing is loaded for Ben any more. -/
theorem save_makes_directory_in_place :
    fileName "ben" ≠ fileName "ana" ∧ Disk.empty.find? (overBen.place "ben") = none ∧
    overBen.load "ben" .empty = .ok [] ∧
    (∃ d' e, overBen.save "ana" [] .empty = (.ok (), d') ∧ d'.find? (overBen.place "ben") = some .directory ∧
      overBen.load "ben" d' = .error e) ∧
    ∃ d' e e', overBen.save "ben" [] .empty = (.error e, d') ∧ d'.find? (overBen.place "ben") = some .directory ∧
      overBen.load "ben" d' = .error e' := by
  have hana : plainName "ana" = "ana" := plainName_of_all (by decide)
  have hben : plainName "ben" = "ben" := plainName_of_all (by decide)
  unfold save load place file temporary fileName temporaryName
  rw [hana, hben]
  exact ⟨by decide, rfl, rfl, ⟨_, _, rfl, rfl, rfl⟩, _, _, _, rfl, rfl, rfl⟩

end Folder

end ScriptBench
