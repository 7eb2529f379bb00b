import ScriptBench.Proofs.Files.Disk
import ScriptBench.Proofs.Suite.Saved
import ScriptBench.Suite.Store

/-! Tests in files. A save changes two places of its directory, of which the temporary one belongs to no owner, and
what stands in the place of an owner is loaded as it was saved. -/
namespace ScriptBench

/-! Names of files -/

theorem isNameChar_of_mem_json {c : Char} (h : c ∈ ['.', 'j', 's', 'o', 'n', '.', 't', 'm', 'p']) :
    isNameChar c = true := by
  have hall : ['.', 'j', 's', 'o', 'n', '.', 't', 'm', 'p'].all isNameChar = true := by decide
  exact List.all_eq_true.1 hall c h

theorem isNameChar_of_mem_plainName {owner : String} {c : Char} (h : c ∈ (plainName owner).toList) :
    isNameChar c = true := by
  rw [plainName, String.toList_map, List.mem_map] at h
  obtain ⟨d, _, rfl⟩ := h
  unfold plainChar
  split
  · rename_i hplain
    exact Bool.or_eq_true_iff.2 (Or.inl hplain)
  · decide

/-- A name of letters, digits, hyphens and underscores stands for itself. -/
theorem plainName_of_all {owner : String}
    (h : (owner.toList.all fun c => c.isAlphanum || c == '-' || c == '_') = true) : plainName owner = owner := by
  rw [← String.toList_inj, plainName, String.toList_map]
  refine (List.map_congr_left fun c hc => ?_).trans (List.map_id owner.toList)
  exact if_pos (List.all_eq_true.1 h c hc)

theorem toList_fileName (owner : String) :
    (fileName owner).toList = (plainName owner).toList ++ ['.', 'j', 's', 'o', 'n'] := String.toList_append

theorem isNameChar_of_mem_fileName {owner : String} {c : Char} (h : c ∈ (fileName owner).toList) :
    isNameChar c = true := by
  rw [toList_fileName, List.mem_append] at h
  refine h.elim isNameChar_of_mem_plainName fun hjson => isNameChar_of_mem_json ?_
  exact List.mem_append_left ['.', 't', 'm', 'p'] hjson

/-- Every temporary name ends alike. -/
theorem exists_temporaryName_eq (owner : String) :
    ∃ front, (∀ c ∈ front, isNameChar c = true) ∧
      (temporaryName owner).toList = front ++ ['.', 'j', 's', 'o', 'n', '.', 't', 'm', 'p'] := by
  unfold temporaryName
  split
  · refine ⟨['.', 'j', 's', 'o', 'n'], fun c hc => isNameChar_of_mem_json ?_, rfl⟩
    exact List.mem_append_left ['.', 't', 'm', 'p'] hc
  · exact ⟨(plainName owner).toList, fun _ => isNameChar_of_mem_plainName, String.toList_append⟩

theorem isNameChar_of_mem_temporaryName {owner : String} {c : Char} (h : c ∈ (temporaryName owner).toList) :
    isNameChar c = true := by
  obtain ⟨front, hfront, hlist⟩ := exists_temporaryName_eq owner
  rw [hlist, List.mem_append] at h
  exact h.elim (hfront c) isNameChar_of_mem_json

theorem isPlain_fileName (owner : String) : Path.IsPlain (fileName owner) := by
  refine Path.isPlain_of_isNameChar (fun _ => isNameChar_of_mem_fileName) ?_
  rw [toList_fileName, List.length_append]
  exact Nat.le_trans (by decide) (Nat.le_add_left 5 _)

theorem isPlain_temporaryName (owner : String) : Path.IsPlain (temporaryName owner) := by
  obtain ⟨front, _, hlist⟩ := exists_temporaryName_eq owner
  refine Path.isPlain_of_isNameChar (fun _ => isNameChar_of_mem_temporaryName) ?_
  rw [hlist, List.length_append]
  exact Nat.le_trans (by decide) (Nat.le_add_left 9 _)

theorem fileName_ne_temporaryName (a b : String) : fileName a ≠ temporaryName b := by
  intro h
  obtain ⟨front, _, hlist⟩ := exists_temporaryName_eq b
  have hlast := congrArg (fun name : String => name.toList.getLast?) h
  simp only [toList_fileName, hlist, List.getLast?_append] at hlast
  change some 'n' = some 'p' at hlast
  exact absurd hlast (by decide)

theorem fileName_inj {a b : String} : fileName a = fileName b ↔ plainName a = plainName b := String.append_left_inj _

theorem fits_fileName {owner : String} (h : Path.fits (temporaryName owner) = true) :
    Path.fits (fileName owner) = true := by
  simp only [Path.fits, decide_eq_true_eq] at h ⊢
  unfold temporaryName at h
  unfold fileName
  split at h
  · rename_i hempty
    have hnil : plainName owner = "" := by
      rw [String.isEmpty_iff.1 hempty, ← String.toList_inj, plainName, String.toList_map]
      rfl
    rw [hnil]
    decide
  · rw [String.utf8ByteSize_append] at h ⊢
    have hsize : ".json".utf8ByteSize = 5 := rfl
    have hsize' : ".json.tmp".utf8ByteSize = 9 := rfl
    omega

namespace Folder

/-- Where the tests of an owner are kept. -/
def place (f : Folder) (owner : String) : Location := f.path.home ++ [fileName owner]

/-- The way to the folder does not lead over the place of an owner. Only a path with two dots in it may. -/
def IsClear (f : Folder) : Prop := ∀ owner, ¬Path.OnWay f.path.origin f.path.parts (f.place owner)

/-- Nobody has a file yet. -/
def IsFresh (f : Folder) (d : Disk) : Prop := ∀ owner, d.find? (f.place owner) = none

theorem isClear_of_no_up {f : Folder} (h : ".." ∉ f.path.parts) : f.IsClear :=
  fun _ => Path.not_onWay_below h (List.cons_ne_nil _ _)

theorem place_inj {f : Folder} {a b : String} : f.place a = f.place b ↔ plainName a = plainName b := by
  rw [place, place, List.append_cancel_left_eq, List.cons.injEq, and_iff_left rfl, fileName_inj]

/-- The locations that a save may change, given what becomes of it. -/
def Within (f : Folder) (a : String) (r : Except StoreError Unit) (q : Location) : Prop :=
  Path.OnWay f.path.origin f.path.parts q ∨ q = f.path.home ++ [temporaryName a] ∨ r = .ok () ∧ q = f.place a

/-- All that a save does. Unless it is done, it leaves the places of all owners alone. -/
structure Saved (f : Folder) (a : String) (tests : List Test) (r : Except StoreError Unit) (d d' : Disk) : Prop where
  changes : Disk.Changes (f.Within a r) d d'
  leads : r = .ok () → d'.Leads f.path (fileName a)
  file : r = .ok () → d'.find? (f.place a) = some (.file (Text.encodeUtf8 (writeTests tests)))
  fits : r = .ok () → Path.fits (temporaryName a) = true

/-- Behind the directories that it makes, a save changes the temporary place, and the owner's place if it is done. -/
theorem changes_of_save {f : Folder} {a : String} {tests : List Test} {r : Except StoreError Unit} {d d' : Disk}
    (h : f.save a tests d = (r, d')) :
    Disk.Changes (fun q => q = f.path.home ++ [temporaryName a] ∨ r = .ok () ∧ q = f.place a)
        (d.makeDirectories f.path).2 d' ∧
      (r = .ok () → d'.Leads f.path (fileName a) ∧
        d'.find? (f.place a) = some (.file (Text.encodeUtf8 (writeTests tests))) ∧
        Path.fits (temporaryName a) = true) := by
  unfold save at h
  split at h
  · rename_i hmade
    rw [hmade]
    cases h
    exact ⟨.refl _ _, (nomatch ·)⟩
  · rename_i d₁ hmade
    rw [hmade]
    split at h
    · rename_i d₂ hwrite
      obtain ⟨hwritten, _⟩ := Disk.write_join (isPlain_temporaryName a) hwrite
      cases h
      exact ⟨hwritten.mono fun q hq => Or.inl hq, (nomatch ·)⟩
    · rename_i d₂ hwrite
      have hfits := ((Disk.write_join (isPlain_temporaryName a) hwrite).2 rfl).1.fits
      split at h
      · rename_i hrename
        obtain ⟨hchanges, _⟩ := Disk.write_rename_join (isPlain_temporaryName a) (isPlain_fileName a)
          (fileName_ne_temporaryName a a) hwrite hrename
        cases h
        exact ⟨hchanges.mono fun q hq => hq.imp_right fun hplace => (nomatch hplace.1), (nomatch ·)⟩
      · rename_i hrename
        obtain ⟨hchanges, hdone⟩ := Disk.write_rename_join (isPlain_temporaryName a) (isPlain_fileName a)
          (fileName_ne_temporaryName a a) hwrite hrename
        obtain ⟨hleads, hfind⟩ := hdone rfl
        cases h
        exact ⟨hchanges.mono fun q hq => hq.imp_right fun hplace => ⟨rfl, hplace.2⟩, fun _ => ⟨hleads, hfind, hfits⟩⟩

theorem saved_save {f : Folder} {a : String} {tests : List Test} {r : Except StoreError Unit} {d d' : Disk}
    (h : f.save a tests d = (r, d')) : f.Saved a tests r d d' := by
  obtain ⟨hchanges, hdone⟩ := changes_of_save h
  have hmade := (Disk.adds_makeDirectories d f.path).changes
  exact ⟨(hmade.mono fun q hq => Or.inl hq).trans (hchanges.mono fun q hq => Or.inr hq), fun hok => (hdone hok).1,
    fun hok => (hdone hok).2.1, fun hok => (hdone hok).2.2⟩

/-- The place of an owner is left alone by every save but a done one under the same file name. -/
theorem Saved.find?_place {f : Folder} {a : String} {tests : List Test} {r : Except StoreError Unit} {d d' : Disk}
    (h : f.Saved a tests r d d') (hclear : f.IsClear) {b : String} (hb : r = .ok () → plainName a ≠ plainName b) :
    d'.find? (f.place b) = d.find? (f.place b) := by
  refine h.changes.same _ ?_
  rintro (hway | htemporary | ⟨hok, hplace⟩)
  · exact hclear b hway
  · rw [place, List.append_cancel_left_eq, List.cons.injEq, and_iff_left rfl] at htemporary
    exact fileName_ne_temporaryName b a htemporary
  · exact hb hok (place_inj.1 hplace).symm

/-- Into a directory that is there and open, without mishaps, a new file is saved if its temporary name fits. -/
theorem save_ok {f : Folder} {a : String} {tests : List Test} {d : Disk} (hmade : d.makeDirectories f.path = (.ok (), d))
    (hmishaps : d.mishaps = []) (hleads : d.Leads f.path (temporaryName a)) (hleads' : d.Leads f.path (fileName a))
    (hhome : d.find? f.path.home ≠ some .sealed) (htemporary : d.find? (f.path.home ++ [temporaryName a]) = none)
    (hfile : d.find? (f.place a) = none) : ∃ d', f.save a tests d = (.ok (), d') := by
  obtain ⟨d₁, d', hwrite, hrename⟩ := Disk.write_rename_join_of_none (isPlain_temporaryName a) (isPlain_fileName a)
    (fileName_ne_temporaryName a a) hmishaps hleads hleads' hhome htemporary hfile
    (Text.encodeUtf8 (writeTests tests))
  have hwrite' : d.write (f.temporary a) (Text.encodeUtf8 (writeTests tests)) = (.ok (), d₁) := hwrite
  have hrename' : d₁.rename (f.temporary a) (f.file a) = (.ok (), d') := hrename
  refine ⟨d', ?_⟩
  unfold save
  rw [hmade]
  simp only
  rw [hwrite']
  simp only
  rw [hrename']

/-! Loading -/

variable {f : Folder} {d : Disk} {b : String}

theorem load_of_none (h : d.find? (f.place b) = none) : f.load b d = .ok [] := by
  have hexists : d.exists? (f.file b) = false := Disk.exists?_join_of_none (isPlain_fileName b) h
  unfold load
  rw [hexists]
  rfl

/-- What is read from a file of text is what its text says. -/
theorem load_of_read {text : String} (h : d.read (f.file b) = .ok (Text.encodeUtf8 text)) :
    f.load b d = (readTests text).mapError (.notParsed (f.file b).text) := by
  have hexists : d.exists? (f.file b) = true := by
    obtain ⟨e, hlook, _⟩ := Json.bind_eq_ok.1 h
    exact Disk.exists?_eq_true_iff.2 ⟨e, hlook⟩
  unfold load
  rw [hexists, if_pos rfl, h]
  simp only [Text.decodeUtf8_encodeUtf8]

theorem read_of_file {bytes : List UInt8} (hleads : d.Leads f.path (fileName b))
    (hfile : d.find? (f.place b) = some (.file bytes)) : d.read (f.file b) = .ok bytes := by
  have hlook : d.look (f.file b) = .ok (.file bytes) := Disk.look_join (isPlain_fileName b) hleads hfile
  rw [Disk.read, hlook]
  rfl

theorem load_of_file {tests : List Test} (hleads : d.Leads f.path (fileName b))
    (hfile : d.find? (f.place b) = some (.file (Text.encodeUtf8 (writeTests tests))))
    (hdated : ∀ t ∈ tests, t.IsDated) : f.load b d = .ok tests := by
  rw [load_of_read (read_of_file hleads hfile), readTests_writeTests hdated]
  rfl

end Folder

end ScriptBench
