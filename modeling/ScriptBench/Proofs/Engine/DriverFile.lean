import ScriptBench.Engine.DriverFile
import ScriptBench.Proofs.Files.Tree

/-! The driver in its file. What is installed where nothing was found is the driver, whatever goes wrong. What was found
there is kept, be it the driver or not. -/
namespace ScriptBench

namespace Digest

theorem length_lowBytes (count n : Nat) : (lowBytes count n).length = count := by
  induction count generalizing n with
  | zero => rfl
  | succ count ih => exact congrArg (· + 1) (ih (n / 256))

theorem length_md5 (bytes : List UInt8) : (md5 bytes).length = 16 := by
  simp [md5, length_lowBytes]

theorem length_toList_hexText (bytes : List UInt8) : (hexText bytes).toList.length = 2 * bytes.length := by
  rw [hexText, String.toList_ofList]
  induction bytes with
  | nil => rfl
  | cons b bytes ih =>
    rw [List.flatMap_cons, List.length_append, ih, List.length_cons, List.length_cons, List.length_cons, List.length_nil]
    omega

theorem isNameChar_of_mem_hexText {bytes : List UInt8} {c : Char} (h : c ∈ (hexText bytes).toList) :
    isNameChar c = true := by
  have hdigits : ∀ n : Fin 16, isNameChar n.val.digitChar = true := by decide
  rw [hexText, String.toList_ofList, List.mem_flatMap] at h
  obtain ⟨b, _, hmem⟩ := h
  have hb := b.toNat_lt
  simp only [List.mem_cons, List.not_mem_nil, or_false] at hmem
  rcases hmem with rfl | rfl
  · exact hdigits ⟨b.toNat / 16, by omega⟩
  · exact hdigits ⟨b.toNat % 16, by omega⟩

end Digest

namespace DriverFile

/-! Names -/

theorem toList_name : name.toList = "driver-".toList ++ digest.toList ++ ".py".toList := by
  rw [← String.toList_append, ← String.toList_append]
  rfl

theorem toList_temporaryName (process : Nat) : (temporaryName process).toList =
    ".driver-".toList ++ digest.toList ++ ".".toList ++ Nat.toDigits 10 process ++ ".tmp".toList := by
  have hdigits : Nat.toDigits 10 process = (toString process).toList := by
    rw [Nat.toString_eq_repr, Nat.repr_eq_ofList_toDigits, String.toList_ofList]
  rw [hdigits, ← String.toList_append, ← String.toList_append, ← String.toList_append, ← String.toList_append]
  rfl

theorem length_digest : digest.toList.length = 32 := by
  rw [digest, Digest.length_toList_hexText, Digest.length_md5]

theorem isNameChar_of_mem_name {c : Char} (h : c ∈ name.toList) : isNameChar c = true := by
  have hfront : "driver-".toList.all isNameChar = true := by decide
  have hback : ".py".toList.all isNameChar = true := by decide
  rw [toList_name, List.mem_append, List.mem_append] at h
  rcases h with (h | h) | h
  · exact List.all_eq_true.1 hfront c h
  · exact Digest.isNameChar_of_mem_hexText h
  · exact List.all_eq_true.1 hback c h

theorem isNameChar_of_mem_temporaryName {process : Nat} {c : Char} (h : c ∈ (temporaryName process).toList) :
    isNameChar c = true := by
  have hfront : ".driver-".toList.all isNameChar = true := by decide
  have hdot : ".".toList.all isNameChar = true := by decide
  have hback : ".tmp".toList.all isNameChar = true := by decide
  rw [toList_temporaryName, List.mem_append, List.mem_append, List.mem_append, List.mem_append] at h
  rcases h with (((h | h) | h) | h) | h
  · exact List.all_eq_true.1 hfront c h
  · exact Digest.isNameChar_of_mem_hexText h
  · exact List.all_eq_true.1 hdot c h
  · have hdigit : c.isDigit = true := Nat.isDigit_of_mem_toDigits (by decide) (by decide) h
    simp [isNameChar, Char.isAlphanum, hdigit]
  · exact List.all_eq_true.1 hback c h

theorem isPlain_name : Path.IsPlain name := by
  refine Path.isPlain_of_isNameChar (fun _ => isNameChar_of_mem_name) ?_
  rw [toList_name, List.length_append, List.length_append, length_digest]
  omega

theorem isPlain_temporaryName (process : Nat) : Path.IsPlain (temporaryName process) := by
  refine Path.isPlain_of_isNameChar (fun _ => isNameChar_of_mem_temporaryName) ?_
  rw [toList_temporaryName, List.length_append, List.length_append, List.length_append, List.length_append,
    length_digest]
  omega

theorem name_ne_temporaryName (process : Nat) : name ≠ temporaryName process := by
  intro h
  have hhead := congrArg (fun name : String => name.toList.head?) h
  simp only [toList_name, toList_temporaryName, List.append_assoc, List.head?_append] at hhead
  change some 'd' = some '.' at hhead
  exact absurd hhead (by decide)

theorem fits_name : Path.fits name = true := by
  refine Path.fits_of_length ?_
  rw [toList_name, List.length_append, List.length_append, length_digest]
  decide

/-! Installing -/

/-- Where the driver is installed. -/
def place (directory : Path) : Location := directory.home ++ [name]

variable {directory : Path} {process : Nat} {d d' : Disk} {r : Except OsError Path}

theorem install_of_exists (h : d.exists? (directory.join name) = true) (process : Nat) :
    install directory process d = (.ok (directory.join name), d) := by
  rw [install, if_pos h]

/-- Behind the directories that it makes, an install changes the temporary place, and the driver's place if it is done.
Then the driver is there. -/
theorem changes_of_install (hnew : d.exists? (directory.join name) = false)
    (h : install directory process d = (r, d')) :
    Disk.Changes (fun q => q = directory.home ++ [temporaryName process] ∨ (∃ p, r = .ok p) ∧ q = place directory)
        (d.makeDirectories directory).2 d' ∧
      ∀ p, r = .ok p → p = directory.join name ∧ d'.Leads directory name ∧
        d'.find? (place directory) = some (.file bytes) := by
  unfold install at h
  rw [if_neg (by rw [hnew]; exact Bool.false_ne_true)] at h
  dsimp only at h
  split at h
  · rename_i hmade
    rw [hmade]
    cases h
    exact ⟨.refl _ _, nofun⟩
  · rename_i hmade
    rw [hmade]
    split at h
    · rename_i hwrite
      obtain ⟨hwritten, _⟩ := Disk.write_join (isPlain_temporaryName process) hwrite
      cases h
      exact ⟨hwritten.mono fun q hq => Or.inl hq, nofun⟩
    · rename_i hwrite
      split at h
      · rename_i hrename
        obtain ⟨hchanges, _⟩ := Disk.write_rename_join (isPlain_temporaryName process) isPlain_name
          (name_ne_temporaryName process) hwrite hrename
        cases h
        exact ⟨hchanges.mono fun q hq => hq.imp_right fun hplace => (nomatch hplace.1), nofun⟩
      · rename_i hrename
        obtain ⟨hchanges, hdone⟩ := Disk.write_rename_join (isPlain_temporaryName process) isPlain_name
          (name_ne_temporaryName process) hwrite hrename
        obtain ⟨hleads, hfind⟩ := hdone rfl
        cases h
        refine ⟨hchanges.mono fun q hq => hq.imp_right fun hplace => ⟨⟨_, rfl⟩, hplace.2⟩, ?_⟩
        rintro p ⟨⟩
        exact ⟨rfl, hleads, hfind⟩

/-- An install leaves every location but the temporary one, and the driver's if it is done. -/
theorem leaves_of_install (h : install directory process d = (r, d')) {q : Location}
    (htemporary : q ≠ directory.home ++ [temporaryName process])
    (hplace : (∃ p, r = .ok p) → q ≠ place directory) :
    d'.find? q = d.find? q ∨
      Path.OnWay directory.origin directory.parts q ∧ d.find? q = none ∧ d'.find? q = some .directory := by
  cases hexists : d.exists? (directory.join name) with
  | true =>
    rw [install_of_exists hexists] at h
    cases h
    exact Or.inl rfl
  | false =>
    have hsame : d'.find? q = (d.makeDirectories directory).2.find? q := by
      refine (changes_of_install hexists h).1.same q ?_
      rintro (hq | ⟨hok, hq⟩)
      · exact htemporary hq
      · exact hplace hok hq
    have hmade := Disk.adds_makeDirectories d directory q
    rwa [← hsame] at hmade

/-- Something is found where an install is done. It is the driver unless something else was found there before. -/
theorem look_of_install {p : Path} (h : install directory process d = (.ok p, d')) :
    p = directory.join name ∧ d'.exists? p = true ∧
      (d'.look p = .ok (.file bytes) ↔ ∀ e, d.look p = .ok e → e = .file bytes) := by
  cases hexists : d.exists? (directory.join name) with
  | true =>
    rw [install_of_exists hexists] at h
    cases h
    obtain ⟨e, hlook⟩ := Disk.exists?_eq_true_iff.1 hexists
    refine ⟨rfl, hexists, ?_⟩
    simp [hlook]
  | false =>
    obtain ⟨rfl, hleads, hfind⟩ := (changes_of_install hexists h).2 p rfl
    have hlook := Disk.look_join isPlain_name hleads hfind
    refine ⟨rfl, Disk.exists?_eq_true_iff.2 ⟨_, hlook⟩, iff_of_true hlook fun e he => ?_⟩
    exact absurd he (Disk.exists?_eq_false_iff.1 hexists e)

/-- Below a directory whose path never goes up, an install changes the temporary place alone, and the driver's if it is
done. -/
theorem find?_below_of_install (h : install directory process d = (r, d')) (hup : ".." ∉ directory.parts)
    {names : List String} (hne : names ≠ []) (htemporary : names ≠ [temporaryName process])
    (hname : (∃ p, r = .ok p) → names ≠ [name]) :
    d'.find? (directory.home ++ names) = d.find? (directory.home ++ names) := by
  refine (leaves_of_install h ?_ fun hok => ?_).resolve_right fun hmade => Path.not_onWay_below hup hne hmade.1
  · rwa [ne_eq, List.append_cancel_left_eq]
  · rw [place, ne_eq, List.append_cancel_left_eq]
    exact hname hok

theorem find?_place_of_install_error {e : OsError} (h : install directory process d = (.error e, d'))
    (hup : ".." ∉ directory.parts) : d'.find? (place directory) = d.find? (place directory) := by
  refine find?_below_of_install h hup (List.cons_ne_nil _ _) ?_ ?_
  · simpa using name_ne_temporaryName process
  · rintro ⟨p, ⟨⟩⟩

/-- An install that fails is one of a driver that was not found, and on a tree it is not found later either. -/
theorem not_exists_of_install_error {e : OsError} (h : install directory process d = (.error e, d'))
    (hup : ".." ∉ directory.parts) (htree : d.IsTree) :
    d.exists? (directory.join name) = false ∧ d'.exists? (directory.join name) = false := by
  have hexists : ¬d.exists? (directory.join name) = true := by
    intro hexists
    rw [install_of_exists hexists] at h
    cases h
  refine ⟨Bool.eq_false_iff.2 hexists, Bool.eq_false_iff.2 fun hexists' => hexists ?_⟩
  obtain ⟨hleads, hsome⟩ := (Disk.exists?_join_iff isPlain_name).1 hexists'
  have hsome' : (d.find? (place directory)).isSome := by
    rwa [← find?_place_of_install_error h hup]
  exact (Disk.exists?_join_iff isPlain_name).2 ⟨htree.leads isPlain_name hup hsome' hleads, hsome'⟩

/-- Into an open directory, without mishaps, the driver is installed if its places are free. -/
theorem install_ok (hmade : d.makeDirectories directory = (.ok (), d)) (hmishaps : d.mishaps = [])
    (hleads : d.Leads directory (temporaryName process)) (hleads' : d.Leads directory name)
    (hhome : d.find? directory.home ≠ some .sealed)
    (htemporary : d.find? (directory.home ++ [temporaryName process]) = none)
    (hplace : d.find? (place directory) = none) :
    ∃ d', install directory process d = (.ok (directory.join name), d') := by
  have hexists : d.exists? (directory.join name) = false := Disk.exists?_join_of_none isPlain_name hplace
  obtain ⟨d₁, d', hwrite, hrename⟩ := Disk.write_rename_join_of_none (isPlain_temporaryName process) isPlain_name
    (name_ne_temporaryName process) hmishaps hleads hleads' hhome htemporary hplace bytes
  refine ⟨d', ?_⟩
  unfold install
  rw [if_neg (by rw [hexists]; exact Bool.false_ne_true), hmade]
  simp only [hwrite, hrename]

theorem leads_start_name (d : Disk) : d.Leads ⟨[], ""⟩ name :=
  Disk.leads_start isPlain_name d (fun _ => isNameChar_of_mem_name) fits_name

/-- Whatever stands on a disk and whichever changes go wrong: the path that an install gives leads to the driver just if
nothing else was found there before, and to install again, in any process, changes nothing. Every location is left but
the temporary one, and the driver's if the install is done. If the path never goes up, all the rest below the directory
is the same as before, and on a tree an install that fails leaves nothing to be found where nothing was. -/
theorem install_gives_driver_iff (h : install directory process d = (r, d')) :
    (∀ p, r = .ok p → p = directory.join name ∧
      (d'.look p = .ok (.file bytes) ↔ ∀ e, d.look p = .ok e → e = .file bytes) ∧
      ∀ process', install directory process' d' = (.ok p, d')) ∧
    (∀ q, q ≠ directory.home ++ [temporaryName process] → ((∃ p, r = .ok p) → q ≠ place directory) →
      d'.find? q = d.find? q ∨
        Path.OnWay directory.origin directory.parts q ∧ d.find? q = none ∧ d'.find? q = some .directory) ∧
    (".." ∉ directory.parts →
      (∀ names, names ≠ [] → names ≠ [temporaryName process] → ((∃ p, r = .ok p) → names ≠ [name]) →
        d'.find? (directory.home ++ names) = d.find? (directory.home ++ names)) ∧
      ∀ e, r = .error e → d'.find? (place directory) = d.find? (place directory) ∧
        (d.IsTree → d.exists? (directory.join name) = false ∧ d'.exists? (directory.join name) = false)) := by
  refine ⟨?_, fun q htemporary hplace => leaves_of_install h htemporary hplace, fun hup => ⟨?_, ?_⟩⟩
  · rintro p rfl
    obtain ⟨rfl, hexists, hdriver⟩ := look_of_install h
    exact ⟨rfl, hdriver, install_of_exists hexists⟩
  · exact fun names hne htemporary hname => find?_below_of_install h hup hne htemporary hname
  · rintro e rfl
    exact ⟨find?_place_of_install_error h hup, not_exists_of_install_error h hup⟩

theorem install_gives_driver_iff_empty_disk :
    ∃ d', install ⟨[], ""⟩ 7 .empty = (.ok (Path.join ⟨[], ""⟩ name), d') ∧
      d'.look (Path.join ⟨[], ""⟩ name) = .ok (.file bytes) ∧
      install ⟨[], ""⟩ 8 d' = (.ok (Path.join ⟨[], ""⟩ name), d') := by
  have hfits : Path.fits (temporaryName 7) = true := by
    refine Path.fits_of_length ?_
    rw [toList_temporaryName, List.length_append, List.length_append, List.length_append, List.length_append,
      length_digest]
    decide
  have hleads : Disk.empty.Leads ⟨[], ""⟩ (temporaryName 7) :=
    Disk.leads_start (isPlain_temporaryName 7) _ (fun _ => isNameChar_of_mem_temporaryName) hfits
  have hfree : ∀ name : String, Disk.empty.find? [name] = none := fun name => by
    rw [Disk.find?, if_neg (List.cons_ne_nil name [])]
    rfl
  obtain ⟨d', h⟩ := install_ok rfl rfl hleads (leads_start_name _) (by decide) (hfree (temporaryName 7)) (hfree name)
  obtain ⟨_, hdriver, hagain⟩ := (install_gives_driver_iff h).1 _ rfl
  refine ⟨d', h, hdriver.2 fun e he => ?_, hagain 8⟩
  have hnone : Disk.empty.exists? (Path.join ⟨[], ""⟩ name) = false :=
    Disk.exists?_join_of_none isPlain_name (hfree name)
  exact absurd he (Disk.exists?_eq_false_iff.1 hnone e)

/-- A disk on which another text has the name of the driver. -/
def otherDisk : Disk := Disk.empty.setEntry [name] (.file (Text.encodeUtf8 "tampered"))

/-- The other text is taken for the driver. -/
theorem install_takes_other_file :
    install ⟨[], ""⟩ 7 otherDisk = (.ok (Path.join ⟨[], ""⟩ name), otherDisk) ∧
      otherDisk.look (Path.join ⟨[], ""⟩ name) = .ok (.file (Text.encodeUtf8 "tampered")) ∧
      bytes ≠ Text.encodeUtf8 "tampered" := by
  have hfind : otherDisk.find? [name] = some (.file (Text.encodeUtf8 "tampered")) :=
    Disk.find?_setEntry_self _ (List.cons_ne_nil name []) _
  have hlook := Disk.look_join isPlain_name (leads_start_name otherDisk) hfind
  refine ⟨install_of_exists (Disk.exists?_eq_true_iff.2 ⟨_, hlook⟩) 7, hlook, fun hbytes => ?_⟩
  have hdecode := congrArg Text.decodeUtf8 hbytes
  rw [bytes, Text.decodeUtf8_encodeUtf8, Text.decodeUtf8_encodeUtf8, Except.ok.injEq] at hdecode
  have hrows : Script.driver = Script.ofRows ("\"\"\"pyrunner interpreter driver." :: Script.driverRows.tail) := rfl
  have hhead := congrArg (fun text : String => text.toList.head?) hdecode
  simp [hrows, Script.ofRows] at hhead

end DriverFile

end ScriptBench
