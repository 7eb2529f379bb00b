import ScriptBench.Proofs.Files.Tree
import ScriptBench.Proofs.Suite.Dated
import ScriptBench.Proofs.Suite.Folder

/-! What stands in an owner's file between the saves. It is loaded as it is until a save is done, if the path of the
folder finds the file: a save that fails may make directories, and these must not bring another file to light. -/
namespace ScriptBench

namespace Folder

variable {f : Folder} {owner : String} {d d' : Disk}

/-- The path of a folder finds the file of an owner. It does not lead over the place of the file, and if something
stands there, no directory that is made later opens a way to it that was not there before. -/
structure Finds (f : Folder) (owner : String) (d : Disk) : Prop where
  clear : ¬Path.OnWay f.path.origin f.path.parts (f.place owner)
  found : (d.find? (f.place owner)).isSome → ∀ d', Disk.Grows d d' → d'.Leads f.path (fileName owner) →
    d.Leads f.path (fileName owner)

/-- A path without two dots in it finds the file of everybody on a disk that is a tree. -/
theorem finds_of_no_up (hup : ".." ∉ f.path.parts) (htree : d.IsTree) (owner : String) : f.Finds owner d :=
  ⟨isClear_of_no_up hup owner, fun hsome _ _ hleads => htree.leads (isPlain_fileName owner) hup hsome hleads⟩

theorem finds_of_leads (hclear : ¬Path.OnWay f.path.origin f.path.parts (f.place owner))
    (hleads : d.Leads f.path (fileName owner)) : f.Finds owner d := ⟨hclear, fun _ _ _ _ => hleads⟩

theorem Finds.grow (h : f.Finds owner d) (hgrows : Disk.Grows d d')
    (hsame : d'.find? (f.place owner) = d.find? (f.place owner)) : f.Finds owner d' := by
  refine ⟨h.clear, fun hsome d'' hgrows' hleads => ?_⟩
  rw [hsame] at hsome
  have hleads' := h.found hsome d'' (fun p hp => hgrows' p (hgrows p hp)) hleads
  exact hgrows.leads hleads'

theorem load_of_not_leads (h : ¬d.Leads f.path (fileName owner)) : f.load owner d = .ok [] := by
  have hexists : d.exists? (f.file owner) = false := by
    refine Bool.eq_false_iff.2 fun hexists => ?_
    exact h ((Disk.exists?_join_iff (isPlain_fileName owner)).1 hexists).1
  unfold load
  rw [hexists]
  rfl

theorem load_congr (hleads : d.Leads f.path (fileName owner)) (hleads' : d'.Leads f.path (fileName owner))
    (hsame : d'.find? (f.place owner) = d.find? (f.place owner)) : f.load owner d' = f.load owner d := by
  cases hfind : d.find? (f.place owner) with
  | none => rw [load_of_none hfind, load_of_none (hsame.trans hfind)]
  | some e =>
    have hlook : d.look (f.file owner) = .ok e := Disk.look_join (isPlain_fileName owner) hleads hfind
    have hlook' : d'.look (f.file owner) = .ok e :=
      Disk.look_join (isPlain_fileName owner) hleads' (hsame.trans hfind)
    unfold load Disk.exists? Disk.read
    rw [hlook, hlook']

/-- What is loaded stays the same as long as the place of the file does. -/
theorem Finds.load_eq (h : f.Finds owner d) (hgrows : Disk.Grows d d')
    (hsame : d'.find? (f.place owner) = d.find? (f.place owner)) : f.load owner d' = f.load owner d := by
  by_cases hleads : d.Leads f.path (fileName owner)
  · exact load_congr hleads (hgrows.leads hleads) hsame
  · rw [load_of_not_leads hleads]
    cases hfind : d.find? (f.place owner) with
    | none => exact load_of_none (hsame.trans hfind)
    | some e =>
      refine load_of_not_leads fun hleads' => ?_
      exact hleads (h.found (by rw [hfind]; rfl) d' hgrows hleads')

/-- What becomes of an owner's file by a save of the owner's tests: they stand there if the save is done, and else what
stood there before. -/
theorem Finds.save {tests : List Test} {r : Except StoreError Unit} (h : f.Finds owner d)
    (hdated : ∀ t ∈ tests, t.IsDated) (hsave : f.save owner tests d = (r, d')) :
    f.Finds owner d' ∧ f.load owner d' = if r.isOk then .ok tests else f.load owner d := by
  have hsaved := saved_save hsave
  cases r with
  | ok _ =>
    have hleads := hsaved.leads rfl
    exact ⟨finds_of_leads h.clear hleads, load_of_file hleads (hsaved.file rfl) hdated⟩
  | error e =>
    have hsame : d'.find? (f.place owner) = d.find? (f.place owner) := by
      refine hsaved.changes.same _ ?_
      rintro (hway | htemporary | ⟨hok, _⟩)
      · exact h.clear hway
      · rw [place, List.append_cancel_left_eq, List.cons.injEq, and_iff_left rfl] at htemporary
        exact fileName_ne_temporaryName owner owner htemporary
      · cases hok
    exact ⟨h.grow hsaved.changes.grows hsame, h.load_eq hsaved.changes.grows hsame⟩

/-- Loaded tests can be saved again. -/
theorem isDated_of_load {tests : List Test} (h : f.load owner d = .ok tests) : ∀ t ∈ tests, t.IsDated := by
  unfold load at h
  split at h
  · split at h
    · cases h
    · split at h
      · cases h
      · rename_i text _
        cases hread : readTests text with
        | error e =>
          rw [hread] at h
          cases h
        | ok read =>
          rw [hread] at h
          cases h
          exact isDated_of_readTests hread
  · cases h
    exact nofun

end Folder

end ScriptBench
