import ScriptBench.Files.Disk
import ScriptBench.Proofs.Files.Path
import ScriptBench.Proofs.Json.Record

/-! What changes on a disk. Directories stay directories, and each change leaves everything alone but a few
locations. So a path to a place in a directory leads there for ever once it did. -/
namespace ScriptBench.Disk

open Json (bind_eq_ok)

/-! Following paths -/

section

variable {d : Disk} {here next location : Location} {part : String} {parts : List String}

theorem step_eq_ok_iff : d.step here part = .ok next ↔
    d.isDirectory here = true ∧ Path.follow here part = next ∧
      ((Path.isBlank part || part = "..") = true ∨ Path.fits part = true ∧ (d.find? next).isSome = true) := by
  unfold step
  by_cases hdirectory : d.isDirectory here = true
  · by_cases hlead : (Path.isBlank part || part = "..") = true
    · simp [hdirectory, hlead]
    · by_cases hfits : Path.fits part = true
      · rw [if_neg (by simp [hdirectory]), if_neg hlead, if_neg (by simp [hfits])]
        constructor
        · intro h
          split at h
          · rename_i hsome
            cases h
            exact ⟨hdirectory, rfl, Or.inr ⟨hfits, hsome⟩⟩
          · cases h
        · rintro ⟨_, rfl, hor⟩
          have hsome := (hor.resolve_left hlead).2
          rw [if_pos hsome]
      · simp [hdirectory, hlead, hfits]
  · simp [hdirectory]

theorem walk_nil : d.walk here [] = .ok here := rfl

theorem walk_cons_eq_ok_iff :
    d.walk here (part :: parts) = .ok location ↔ ∃ next, d.step here part = .ok next ∧
      d.walk next parts = .ok location := by
  rw [walk, List.foldlM_cons]
  exact bind_eq_ok

theorem walk_append_eq_ok_iff {more : List String} :
    d.walk here (parts ++ more) = .ok location ↔ ∃ next, d.walk here parts = .ok next ∧
      d.walk next more = .ok location := by
  rw [walk, List.foldlM_append]
  exact bind_eq_ok

theorem foldl_follow_of_walk (h : d.walk here parts = .ok location) : parts.foldl Path.follow here = location := by
  induction parts generalizing here with
  | nil =>
    cases h
    rfl
  | cons part parts ih =>
    obtain ⟨next, hstep, h⟩ := walk_cons_eq_ok_iff.1 h
    obtain ⟨_, rfl, _⟩ := step_eq_ok_iff.1 hstep
    exact ih h

/-- A way that ends in a directory begins in one. -/
theorem isDirectory_of_walk (h : d.walk here parts = .ok location) (hend : d.isDirectory location = true) :
    d.isDirectory here = true := by
  cases parts with
  | nil =>
    cases h
    exact hend
  | cons part parts =>
    obtain ⟨next, hstep, _⟩ := walk_cons_eq_ok_iff.1 h
    exact (step_eq_ok_iff.1 hstep).1

end

theorem exists?_eq_true_iff {d : Disk} {p : Path} : d.exists? p = true ↔ ∃ e, d.look p = .ok e := by
  unfold exists?
  cases d.look p with
  | error e => exact iff_of_false Bool.false_ne_true nofun
  | ok e => exact iff_of_true rfl ⟨e, rfl⟩

theorem exists?_eq_false_iff {d : Disk} {p : Path} : d.exists? p = false ↔ ∀ e, d.look p ≠ .ok e := by
  rw [← Bool.not_eq_true, exists?_eq_true_iff, not_exists]

/-! Growing disks -/

/-- Every directory of a disk is one of another. -/
def Grows (d d' : Disk) : Prop := ∀ p, d.isDirectory p = true → d'.isDirectory p = true

theorem isSome_of_isDirectory {d : Disk} {p : Location} (h : d.isDirectory p = true) : (d.find? p).isSome = true := by
  unfold isDirectory at h
  cases hp : d.find? p with
  | none =>
    rw [hp] at h
    cases h
  | some e => rfl

section

variable {d d' : Disk} (h : Grows d d')

include h

theorem Grows.walk {here location : Location} {parts : List String} (hwalk : d.walk here parts = .ok location)
    (hend : d.isDirectory location = true) : d'.walk here parts = .ok location := by
  induction parts generalizing here with
  | nil => exact hwalk
  | cons part parts ih =>
    obtain ⟨next, hstep, hwalk⟩ := walk_cons_eq_ok_iff.1 hwalk
    obtain ⟨hhere, hnext, hor⟩ := step_eq_ok_iff.1 hstep
    have hdirectory := isDirectory_of_walk hwalk hend
    have hstep' : d'.step here part = .ok next :=
      step_eq_ok_iff.2 ⟨h here hhere, hnext, hor.imp_right fun hor =>
        ⟨hor.1, isSome_of_isDirectory (h next hdirectory)⟩⟩
    exact walk_cons_eq_ok_iff.2 ⟨next, hstep', ih hwalk⟩

end

/-! Places in directories -/

/-- A path leads to a place in a directory. -/
structure Leads (d : Disk) (p : Path) (name : String) : Prop where
  refusal : (p.join name).refusal? = none
  walk : d.walk (p.join name).origin (p.join name).parts.dropLast = .ok p.home
  directory : d.isDirectory p.home = true
  fits : Path.fits name = true

section

variable {d d' : Disk} {p : Path} {name : String} (hname : Path.IsPlain name)

include hname

theorem site_join_eq_ok_iff {location : Location} :
    d.site (p.join name) = .ok location ↔ d.Leads p name ∧ location = p.home ++ [name] := by
  obtain ⟨lead, hparts, hhome⟩ := p.exists_parts_join hname
  have hplain : ¬(Path.isBlank name || name = "..") = true := by simp [hname.blank, hname.up]
  unfold site
  cases hrefusal : (p.join name).refusal? with
  | some e =>
    constructor
    · intro h
      cases h
    · rintro ⟨h, _⟩
      have hnone := h.refusal
      rw [hrefusal] at hnone
      cases hnone
  | none =>
    simp only [hparts, List.dropLast_concat, List.getLast?_concat, Option.getD_some]
    constructor
    · intro h
      obtain ⟨here, hwalk, h⟩ := bind_eq_ok.1 h
      obtain rfl : p.home = here := hhome ▸ foldl_follow_of_walk hwalk
      split at h
      · cases h
      · rename_i hdirectory
        split at h
        · rename_i hfits
          cases h
          exact ⟨⟨hrefusal, by rwa [hparts, List.dropLast_concat], by simpa using hdirectory, hfits⟩, rfl⟩
        · cases h
    · rintro ⟨h, rfl⟩
      have hwalk := h.walk
      rw [hparts, List.dropLast_concat] at hwalk
      rw [hwalk]
      change (if (!d.isDirectory p.home) = true then _ else if _ then _ else if _ then _ else _) = _
      rw [if_neg (by simp [h.directory]), if_neg hplain, if_pos h.fits]
      rfl

/-- What stands at the place to which a path leads is found there. -/
theorem locate_join (h : d.Leads p name) {e : Entry} (he : d.find? (p.home ++ [name]) = some e) :
    d.locate (p.join name) = .ok (p.home ++ [name]) := by
  obtain ⟨lead, hparts, _⟩ := p.exists_parts_join hname
  have hwalk := h.walk
  rw [hparts, List.dropLast_concat] at hwalk
  have hstep : d.step p.home name = .ok (p.home ++ [name]) :=
    step_eq_ok_iff.2 ⟨h.directory, Path.follow_of_plain hname p.home, Or.inr ⟨h.fits, by rw [he]; rfl⟩⟩
  rw [locate, h.refusal, hparts]
  exact walk_append_eq_ok_iff.2 ⟨p.home, hwalk, walk_cons_eq_ok_iff.2 ⟨_, hstep, walk_nil⟩⟩

theorem look_join (h : d.Leads p name) {e : Entry} (he : d.find? (p.home ++ [name]) = some e) :
    d.look (p.join name) = .ok e := by
  rw [look, locate_join hname h he]
  simp only [bind, Except.bind, he]
  rfl

/-- What is found behind a path to a place is what stands there, and the path leads there. -/
theorem look_join_eq_ok_iff {e : Entry} :
    d.look (p.join name) = .ok e ↔ d.Leads p name ∧ d.find? (p.home ++ [name]) = some e := by
  refine ⟨fun hlook => ?_, fun h => look_join hname h.1 h.2⟩
  obtain ⟨lead, hparts, hhome⟩ := p.exists_parts_join hname
  obtain ⟨location, hlocate, he⟩ := bind_eq_ok.1 hlook
  unfold locate at hlocate
  split at hlocate
  · cases hlocate
  · rename_i hrefusal
    rw [hparts] at hlocate
    obtain ⟨here, hwalk, hlast⟩ := walk_append_eq_ok_iff.1 hlocate
    have hhere : here = p.home := by rw [← hhome, foldl_follow_of_walk hwalk]
    subst hhere
    obtain ⟨next, hstep, hend⟩ := walk_cons_eq_ok_iff.1 hlast
    obtain ⟨hdirectory, hnext, hor⟩ := step_eq_ok_iff.1 hstep
    cases hend
    rw [Path.follow_of_plain hname] at hnext
    subst hnext
    have hplain : ¬(Path.isBlank name || decide (name = "..")) = true := by simp [hname.blank, hname.up]
    refine ⟨⟨hrefusal, ?_, hdirectory, (hor.resolve_left hplain).1⟩, ?_⟩
    · rw [hparts, List.dropLast_concat]
      exact hwalk
    · split at he
      · rename_i hfind
        cases he
        exact hfind
      · cases he

theorem exists?_join_iff :
    d.exists? (p.join name) = true ↔ d.Leads p name ∧ (d.find? (p.home ++ [name])).isSome := by
  simp only [exists?_eq_true_iff, look_join_eq_ok_iff hname, exists_and_left, Option.isSome_iff_exists]

/-- Where nothing stands nothing is found. -/
theorem exists?_join_of_none (h : d.find? (p.home ++ [name]) = none) : d.exists? (p.join name) = false := by
  refine Bool.eq_false_iff.2 fun hexists => ?_
  have hsome := ((exists?_join_iff hname).1 hexists).2
  rw [h] at hsome
  cases hsome

end

theorem Grows.leads {d d' : Disk} (h : Grows d d') {p : Path} {name : String} (hleads : d.Leads p name) :
    d'.Leads p name where
  refusal := hleads.refusal
  walk := h.walk hleads.walk hleads.directory
  directory := h _ hleads.directory
  fits := hleads.fits

/-! Changes -/

/-- A change keeps all directories, and everything outside some locations. -/
structure Changes (within : Location → Prop) (d d' : Disk) : Prop where
  grows : Grows d d'
  same : ∀ q, ¬within q → d'.find? q = d.find? q

section

variable {within within' : Location → Prop} {d d₁ d' : Disk}

theorem Changes.refl (within : Location → Prop) (d : Disk) : Changes within d d := ⟨fun _ h => h, fun _ _ => rfl⟩

theorem Changes.trans (h : Changes within d d₁) (h' : Changes within d₁ d') : Changes within d d' :=
  ⟨fun p hp => h'.grows p (h.grows p hp), fun q hq => (h'.same q hq).trans (h.same q hq)⟩

theorem Changes.mono (h : Changes within d d') (hle : ∀ q, within q → within' q) : Changes within' d d' :=
  ⟨h.grows, fun q hq => h.same q fun hwithin => hq (hle q hwithin)⟩

/-- Only what stands on a disk matters, not what awaits it. -/
theorem Changes.of_find? (h : ∀ q, d'.find? q = d.find? q) : Changes within d d' := by
  refine ⟨fun p hp => ?_, fun q _ => h q⟩
  unfold isDirectory at hp ⊢
  rwa [h p]

end

theorem find?_nextMishap (d : Disk) (q : Location) : d.nextMishap.2.find? q = d.find? q := by
  unfold nextMishap
  split <;> rfl

theorem changes_nextMishap (within : Location → Prop) (d : Disk) : Changes within d d.nextMishap.2 :=
  .of_find? (find?_nextMishap d)

/-- An entry may be put anywhere but in the place of a directory, unless it is one. -/
theorem changes_setEntry {d : Disk} {p : Location} {e : Entry}
    (h : d.isDirectory p = true → e.isDirectory = true) : Changes (· = p) d (d.setEntry p e) := by
  refine ⟨fun q hq => ?_, fun q hq => find?_setEntry_of_ne d hq e⟩
  by_cases hqp : q = p
  · subst hqp
    by_cases hroot : q = []
    · subst hroot
      rfl
    · unfold isDirectory
      rw [find?_setEntry_self d hroot]
      exact h hq
  · unfold isDirectory at hq ⊢
    rwa [find?_setEntry_of_ne d hqp]

theorem changes_removeEntry {d : Disk} {p : Location} (h : d.isDirectory p = false) :
    Changes (· = p) d (d.removeEntry p) := by
  refine ⟨fun q hq => ?_, fun q hq => find?_removeEntry_of_ne d hq⟩
  have hqp : q ≠ p := by
    rintro rfl
    rw [h] at hq
    cases hq
  unfold isDirectory at hq ⊢
  rwa [find?_removeEntry_of_ne d hqp]

/-- Directories were made at some locations where nothing stood, and all else is the same. -/
def Adds (within : Location → Prop) (d d' : Disk) : Prop :=
  ∀ q, d'.find? q = d.find? q ∨ within q ∧ d.find? q = none ∧ d'.find? q = some .directory

section

variable {within within' : Location → Prop} {d d₁ d' : Disk}

theorem Adds.refl (within : Location → Prop) (d : Disk) : Adds within d d := fun _ => Or.inl rfl

theorem Adds.trans (h : Adds within d d₁) (h' : Adds within d₁ d') : Adds within d d' := by
  intro q
  rcases h q with hsame | ⟨hq, hnone, hmade⟩
  · rw [← hsame]
    exact h' q
  · refine Or.inr ⟨hq, hnone, ?_⟩
    rcases h' q with hsame | ⟨_, hnone', _⟩
    · rw [hsame, hmade]
    · rw [hmade] at hnone'
      cases hnone'

theorem Adds.mono (h : Adds within d d') (hle : ∀ q, within q → within' q) : Adds within' d d' :=
  fun q => (h q).imp_right fun hmade => ⟨hle q hmade.1, hmade.2⟩

theorem Adds.changes (h : Adds within d d') : Changes within d d' := by
  refine ⟨fun p hp => ?_, fun q hq => (h q).resolve_right fun hmade => hq hmade.1⟩
  unfold isDirectory at hp ⊢
  rcases h p with hsame | ⟨_, _, hmade⟩
  · rwa [hsame]
  · rw [hmade]
    rfl

end

theorem adds_makeDirectory {d : Disk} {here : Location} {name : String} (h : d.find? (here ++ [name]) = none) :
    Adds (· = here ++ [name]) d (d.makeDirectory here name).2 := by
  have hnext : Adds (· = here ++ [name]) d d.nextMishap.2 := fun q => Or.inl (find?_nextMishap d q)
  unfold makeDirectory
  dsimp only
  split
  · exact hnext
  · exact hnext
  · intro q
    by_cases hq : q = here ++ [name]
    · subst hq
      exact Or.inr ⟨rfl, h, find?_setEntry_self _ (by simp) .directory⟩
    · exact Or.inl ((find?_setEntry_of_ne _ hq .directory).trans (find?_nextMishap d q))

theorem adds_makeOnward (d : Disk) (here : Location) (made : Bool) (parts : List String) :
    Adds (Path.OnWay here parts) d (d.makeOnward here made parts).2 := by
  induction parts generalizing d here made with
  | nil => exact .refl _ d
  | cons part parts ih =>
    have honward : ∀ (d : Disk) (made : Bool), Adds (Path.OnWay here (part :: parts)) d
        (d.makeOnward (Path.follow here part) made parts).2 := by
      intro d made
      exact (ih d (Path.follow here part) made).mono fun q hq => hq.cons
    unfold makeOnward
    dsimp only
    split
    · exact honward d made
    · rename_i hlead
      split
      · exact .refl _ d
      · split
        · split
          · exact honward d made
          · exact .refl _ d
        · rename_i hnone
          split
          · exact .refl _ d
          · have hfollow : Path.follow here part = here ++ [part] := by
              simp only [Bool.or_eq_true, decide_eq_true_eq, not_or] at hlead
              rw [Path.follow, if_neg hlead.1, if_neg hlead.2]
            have hmade : Adds (Path.OnWay here (part :: parts)) d (d.makeDirectory here part).2 := by
              refine (adds_makeDirectory (hfollow ▸ hnone)).mono fun q hq => ?_
              rw [hq, ← hfollow]
              exact .first here part parts
            split
            · rename_i d₁ hresult
              rw [hresult] at hmade
              exact hmade.trans (honward d₁ true)
            · rename_i d₁ hresult
              rw [hresult] at hmade
              exact hmade

/-- Directories are made on the way of a path alone, and nothing that stands there is touched. -/
theorem adds_makeDirectories (d : Disk) (p : Path) : Adds (Path.OnWay p.origin p.parts) d (d.makeDirectories p).2 := by
  unfold makeDirectories
  split
  · exact .refl _ d
  · split
    · exact .refl _ d
    · exact adds_makeOnward d p.origin false p.parts

/-! Files in directories -/

/-- A file may be put in a place where no directory stands. -/
theorem changes_setEntry_join {d : Disk} {p : Path} {name : String} {e : Entry} (h : d.isDirectory (p.home ++ [name]) = false)
    (hleads : d.Leads p name) : Changes (· = p.home ++ [name]) d (d.setEntry (p.home ++ [name]) e) ∧
      (d.setEntry (p.home ++ [name]) e).Leads p name ∧
      (d.setEntry (p.home ++ [name]) e).find? (p.home ++ [name]) = some e := by
  have hchanges : Changes (· = p.home ++ [name]) d (d.setEntry (p.home ++ [name]) e) :=
    changes_setEntry fun hdirectory => by
      rw [h] at hdirectory
      cases hdirectory
  exact ⟨hchanges, hchanges.grows.leads hleads, find?_setEntry_self d (by simp) e⟩

section

variable {d : Disk} {p : Path} {name : String} (hname : Path.IsPlain name)

include hname

theorem writable_join {location : Location} (h : d.writable (p.join name) = .ok location) :
    d.Leads p name ∧ location = p.home ++ [name] ∧ d.isDirectory location = false := by
  obtain ⟨location', hsite, h⟩ := bind_eq_ok.1 h
  obtain ⟨hleads, rfl⟩ := (site_join_eq_ok_iff hname).1 hsite
  unfold isDirectory
  cases he : d.find? (p.home ++ [name]) with
  | none =>
    rw [he] at h
    dsimp only at h
    split at h
    · cases h
    · cases h
      exact ⟨hleads, rfl, by rw [he]; rfl⟩
  | some e =>
    rw [he] at h
    dsimp only at h
    split at h
    · cases h
    · rename_i hdirectory
      cases h
      exact ⟨hleads, rfl, by rw [he]; simpa using hdirectory⟩

/-- A write changes its file alone, whatever becomes of it. If it is done, the file holds the bytes. -/
theorem write_join {bytes : List UInt8} {r : Except OsError Unit} {d' : Disk}
    (h : d.write (p.join name) bytes = (r, d')) :
    Changes (· = p.home ++ [name]) d d' ∧
      (r = .ok () → d'.Leads p name ∧ d'.find? (p.home ++ [name]) = some (.file bytes)) := by
  have hnext := changes_nextMishap (· = p.home ++ [name]) d
  unfold write at h
  generalize d.nextMishap = next at h hnext
  obtain ⟨mishap?, d₁⟩ := next
  dsimp only at h hnext
  split at h
  · cases h
    exact ⟨hnext, fun h => nomatch h⟩
  · rename_i hwritable
    obtain ⟨hleads, rfl, hdirectory⟩ := writable_join hname hwritable
    obtain ⟨hchanges, hleads, hfind⟩ := changes_setEntry_join hdirectory hleads
    cases h
    exact ⟨hnext.trans hchanges, fun _ => ⟨hleads, hfind⟩⟩
  · cases h
    exact ⟨hnext, fun h => nomatch h⟩
  · rename_i hwritable
    obtain ⟨hleads, rfl, hdirectory⟩ := writable_join hname hwritable
    obtain ⟨hchanges, _⟩ := changes_setEntry_join hdirectory hleads
    cases h
    exact ⟨hnext.trans hchanges, fun h => nomatch h⟩

/-- A file is moved to another place of its directory, or nothing is changed. -/
theorem rename_join {target : String} (htarget : Path.IsPlain target) {bytes : List UInt8}
    {r : Except OsError Unit} {d' : Disk} (hleads : d.Leads p name)
    (hfile : d.find? (p.home ++ [name]) = some (.file bytes)) (hne : target ≠ name)
    (h : d.rename (p.join name) (p.join target) = (r, d')) :
    Changes (fun q => r = .ok () ∧ (q = p.home ++ [name] ∨ q = p.home ++ [target])) d d' ∧
      (r = .ok () → d'.Leads p target ∧ d'.find? (p.home ++ [target]) = some (.file bytes)) := by
  have hfile := (find?_nextMishap d (p.home ++ [name])).trans hfile
  have hleads := (changes_nextMishap (fun _ => False) d).grows.leads hleads
  have hnext := fun within => changes_nextMishap within d
  unfold rename at h
  generalize d.nextMishap = next at h hnext hfile hleads
  obtain ⟨mishap?, d₁⟩ := next
  dsimp only at h hnext hfile hleads
  rw [locate_join hname hleads hfile, look_join hname hleads hfile] at h
  split at h
  · cases h
    exact ⟨hnext _, fun h => nomatch h⟩
  · rename_i old e new hold he hwritable
    cases hold
    cases he
    obtain ⟨hleads, rfl, hdirectory⟩ := writable_join htarget hwritable
    have hplain : d₁.isDirectory (p.home ++ [name]) = false := by
      unfold isDirectory
      rw [hfile]
      rfl
    have hremoved := changes_removeEntry hplain
    have hfree : (d₁.removeEntry (p.home ++ [name])).isDirectory (p.home ++ [target]) = false := by
      unfold isDirectory at hdirectory ⊢
      rwa [find?_removeEntry_of_ne d₁ (by simpa using hne)]
    obtain ⟨hset, hleads, hfind⟩ := @changes_setEntry_join _ _ _ (.file bytes) hfree (hremoved.grows.leads hleads)
    have hmoved : Changes (fun q => q = p.home ++ [name] ∨ q = p.home ++ [target]) d₁
        ((d₁.removeEntry (p.home ++ [name])).setEntry (p.home ++ [target]) (.file bytes)) :=
      (hremoved.mono fun q hq => Or.inl hq).trans (hset.mono fun q hq => Or.inr hq)
    cases h
    exact ⟨(hnext _).trans (hmoved.mono fun q hq => ⟨rfl, hq⟩), fun _ => ⟨hleads, hfind⟩⟩
  all_goals
    cases h
    exact ⟨hnext _, fun h => nomatch h⟩

/-- A file is written in one place and moved to another in the same directory. No other place is changed, the second
only when it is done, and then the file with its bytes is there. -/
theorem write_rename_join {target : String} (htarget : Path.IsPlain target) (hne : target ≠ name) {bytes : List UInt8}
    {d₁ : Disk} {r : Except OsError Unit} {d' : Disk} (hwrite : d.write (p.join name) bytes = (.ok (), d₁))
    (hrename : d₁.rename (p.join name) (p.join target) = (r, d')) :
    Changes (fun q => q = p.home ++ [name] ∨ r = .ok () ∧ q = p.home ++ [target]) d d' ∧
      (r = .ok () → d'.Leads p target ∧ d'.find? (p.home ++ [target]) = some (.file bytes)) := by
  obtain ⟨hwritten, hfile⟩ := write_join hname hwrite
  obtain ⟨hleads, hfind⟩ := hfile rfl
  obtain ⟨hmoved, hdone⟩ := rename_join hname htarget hleads hfind hne hrename
  refine ⟨(hwritten.mono fun q hq => Or.inl hq).trans (hmoved.mono ?_), hdone⟩
  rintro q ⟨hok, hq | hq⟩
  · exact Or.inl hq
  · exact Or.inr ⟨hok, hq⟩

/-! Changes that are done -/

/-- A directory in which files can be made is not sealed. -/
theorem writable_join_of_none (hleads : d.Leads p name) (hnone : d.find? (p.home ++ [name]) = none)
    (hhome : d.find? p.home ≠ some .sealed) : d.writable (p.join name) = .ok (p.home ++ [name]) := by
  have hsite : d.site (p.join name) = .ok (p.home ++ [name]) := (site_join_eq_ok_iff hname).2 ⟨hleads, rfl⟩
  rw [writable, hsite]
  simp only [bind, Except.bind, hnone, List.dropLast_concat]
  rw [if_neg hhome]
  rfl

theorem write_join_of_none (hmishaps : d.mishaps = []) (hleads : d.Leads p name)
    (hnone : d.find? (p.home ++ [name]) = none) (hhome : d.find? p.home ≠ some .sealed) (bytes : List UInt8) :
    d.write (p.join name) bytes = (.ok (), d.setEntry (p.home ++ [name]) (.file bytes)) := by
  have hnext : d.nextMishap = (none, d) := by rw [nextMishap, hmishaps]
  rw [write, hnext]
  simp only [writable_join_of_none hname hleads hnone hhome]

theorem rename_join_of_none {target : String} (htarget : Path.IsPlain target) (hmishaps : d.mishaps = [])
    (hleads : d.Leads p name) {e : Entry} (he : d.find? (p.home ++ [name]) = some e) (hleads' : d.Leads p target)
    (hnone : d.find? (p.home ++ [target]) = none) (hhome : d.find? p.home ≠ some .sealed) :
    ∃ d', d.rename (p.join name) (p.join target) = (.ok (), d') := by
  have hnext : d.nextMishap = (none, d) := by rw [nextMishap, hmishaps]
  rw [rename, hnext]
  simp only [locate_join hname hleads he, look_join hname hleads he,
    writable_join_of_none htarget hleads' hnone hhome]
  exact ⟨_, rfl⟩

theorem write_rename_join_of_none {target : String} (htarget : Path.IsPlain target) (hne : target ≠ name)
    (hmishaps : d.mishaps = []) (hleads : d.Leads p name) (hleads' : d.Leads p target)
    (hhome : d.find? p.home ≠ some .sealed) (hnone : d.find? (p.home ++ [name]) = none)
    (hnone' : d.find? (p.home ++ [target]) = none) (bytes : List UInt8) :
    ∃ d₁ d', d.write (p.join name) bytes = (.ok (), d₁) ∧ d₁.rename (p.join name) (p.join target) = (.ok (), d') := by
  have hwrite := write_join_of_none hname hmishaps hleads hnone hhome bytes
  obtain ⟨hwritten, hdone⟩ := write_join hname hwrite
  obtain ⟨hleads₁, hfind⟩ := hdone rfl
  have hfree := (hwritten.same (p.home ++ [target]) (by simpa using hne)).trans hnone'
  have hopen : (d.setEntry (p.home ++ [name]) (.file bytes)).find? p.home ≠ some .sealed := by
    rwa [hwritten.same p.home (by simp)]
  have hcalm : (d.setEntry (p.home ++ [name]) (.file bytes)).mishaps = [] := hmishaps
  obtain ⟨d', hrename⟩ := rename_join_of_none hname htarget hcalm hleads₁ hfind (hwritten.grows.leads hleads') hfree
    hopen
  exact ⟨_, d', hwrite, hrename⟩

/-- On every disk the empty path leads to where it is seen from, if that is the root. -/
theorem leads_start (d : Disk) (hchars : ∀ c ∈ name.toList, isNameChar c = true) (hfits : Path.fits name = true) :
    d.Leads ⟨[], ""⟩ name := by
  have hjoin : (⟨[], ""⟩ : Path).join name = ⟨[], name⟩ := by
    change (⟨[], "" ++ name⟩ : Path) = _
    rw [String.empty_append]
  have hne : name ≠ "" := by
    rintro rfl
    exact absurd hname.blank (by decide)
  have hsize : name.utf8ByteSize ≤ 255 := by simpa [Path.fits] using hfits
  refine ⟨?_, ?_, rfl, hfits⟩
  · have hnul : name.toList.contains '\x00' = false := by
      simp only [List.contains_eq_mem, decide_eq_false_iff_not]
      exact fun hnul => absurd (hchars _ hnul) (by decide)
    have hempty : name.isEmpty = false := by simpa using hne
    have hlimit : name.utf8ByteSize < Path.byteLimit := Nat.lt_of_le_of_lt hsize (by decide)
    simp only [hjoin, Path.refusal?, hnul, hempty, hlimit, if_true, if_false, Bool.false_eq_true]
  · have hparts : (⟨[], name⟩ : Path).parts = [name] := by
      rw [Path.parts, Text.cut_of_not_mem hname.slash, List.map_singleton, String.ofList_toList]
    have horigin : (⟨[], name⟩ : Path).origin = [] := ite_self []
    rw [hjoin, hparts, horigin]
    rfl

end

end ScriptBench.Disk
