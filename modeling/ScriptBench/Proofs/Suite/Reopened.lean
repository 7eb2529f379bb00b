import ScriptBench.Bench
import ScriptBench.Proofs.Execution.Exchange
import ScriptBench.Proofs.Suite.History
import ScriptBench.Proofs.Suite.Isolation
import ScriptBench.Proofs.Suite.Standing

/-! What a suite on the bench is when it is opened again. Whatever was done to it, the store holds the tests of the last
save that was done, and the suite itself goes on in the same way if saves fail. -/
namespace ScriptBench

theorem Suite.load_eq_ok_iff {ω : Type} {world : World ω} {owner : String} {w : ω} {s : Suite} :
    Suite.load world owner w = .ok s ↔ s.owner = owner ∧ world.store.load owner w = .ok s.tests := by
  unfold load
  constructor
  · intro h
    cases hload : world.store.load owner w with
    | error e =>
      rw [hload] at h
      cases h
    | ok tests =>
      rw [hload] at h
      cases h
      exact ⟨rfl, rfl⟩
  · rintro ⟨rfl, hload⟩
    rw [hload]
    rfl

/-- Programs neither use nor change the machine. -/
theorem Engine.run_machine (e : Engine) (m : Machine) (options : RunOptions) (source : String)
    (library? : Option String) : ({ e with machine := m } : Engine).run options source library? =
      (e.run options source library?).map fun r => (r.1, { r.2 with machine := m }) := by
  unfold run
  dsimp only
  cases e.supervisor.live with
  | none => rfl
  | some n =>
    unfold runOn worker?
    dsimp only
    cases e.workers[n]? with
    | none => rfl
    | some w =>
      simp only [Option.bind_eq_bind, Option.bind_some]
      cases w.exec options.timeout?.isSome source library? options.module with
      | none => rfl
      | some r =>
        obtain ⟨result, w⟩ := r
        cases result with
        | ok reply => rfl
        | error f => cases f <;> rfl

theorem Engine.machine_of_run {e e' : Engine} {options : RunOptions} {source : String} {library? : Option String}
    {o : Outcome} (h : e.run options source library? = some (o, e')) : e'.machine = e.machine := by
  have hsame := e.run_machine e.machine options source library?
  change e.run options source library? = _ at hsame
  rw [h] at hsame
  have hmachine := congrArg Engine.machine (Prod.mk.inj (Option.some.inj hsame)).2
  exact hmachine

/-- The store finds what it keeps for an owner. In memory it always does. -/
def Keeping.Finds (k : Keeping) (owner : String) (b : Bench) : Prop :=
  match k with
  | .memory => True
  | .files f => f.Finds owner b.disk

/-- The store gives a test back as it was saved. In memory it always does. -/
def Keeping.Takes (k : Keeping) (t : Test) : Prop :=
  match k with
  | .memory => True
  | .files _ => t.IsDated

theorem Keeping.takes_of_isDated {t : Test} (h : t.IsDated) : ∀ k : Keeping, k.Takes t
  | .memory => trivial
  | .files _ => h

namespace Bench

/-- Benches on which programs run alike. What is kept on them may differ. -/
structure Alike (b b' : Bench) : Prop where
  engine : ({ b.engine with machine := b'.engine.machine } : Engine) = b'.engine
  clock : b.clock = b'.clock

theorem Alike.symm {b b' : Bench} (h : b.Alike b') : b'.Alike b := by
  refine ⟨?_, h.clock.symm⟩
  rw [← h.engine]

theorem Alike.trans {b b' b'' : Bench} (h : b.Alike b') (h' : b'.Alike b'') : b.Alike b'' := by
  refine ⟨?_, h.clock.trans h'.clock⟩
  rw [← h'.engine, ← h.engine]

/-- A save leaves all as it was but what is kept. -/
theorem alike_save (k : Keeping) (owner : String) (tests : List Test) (b : Bench) :
    b.Alike ((store k).save owner tests b).2 := by
  cases k <;> exact ⟨rfl, rfl⟩

/-- The store makes no difference to the programs of a suite. -/
theorem like_world (k k' : Keeping) (options : RunOptions) : World.Like Alike (world k options) (world k' options) := by
  refine ⟨fun b b' h => h.clock, fun source b b' h => ?_, fun owner tests b b' h => ?_⟩
  · change Option.Rel _ (b.run options source none) (b'.run options source none)
    have hrun := b.engine.run_machine b'.engine.machine options source none
    rw [h.engine] at hrun
    unfold run
    rw [hrun]
    cases b.engine.run options source none with
    | none => exact .none
    | some r => exact .some ⟨rfl, rfl, h.clock⟩
  · exact ((alike_save k owner tests b).symm.trans h).trans (alike_save k' owner tests b')

theorem save_files {f : Folder} {owner : String} {tests : List Test} {b : Bench} {r : Except StoreError Unit} {d : Disk}
    (h : f.save owner tests b.disk = (r, d)) : (store (.files f)).save owner tests b = (r, b.setDisk d) := by
  change ((f.save owner tests b.disk).1, b.setDisk (f.save owner tests b.disk).2) = _
  rw [h]

/-- What becomes of what an owner's tests are loaded from by a save of the owner's tests. -/
theorem load_save {k : Keeping} {owner : String} {tests : List Test} {b b' : Bench} {r : Except StoreError Unit}
    (hfinds : k.Finds owner b) (htakes : ∀ t ∈ tests, k.Takes t)
    (hsave : (store k).save owner tests b = (r, b')) :
    k.Finds owner b' ∧ (store k).load owner b' = if r.isOk then .ok tests else (store k).load owner b := by
  cases k with
  | memory =>
    cases hsave
    refine ⟨trivial, ?_⟩
    change Except.ok (((Dictionary.insert b.shelves owner tests).get? owner).getD []) = _
    rw [Dictionary.get?_insert_self]
    rfl
  | files f =>
    rcases hfolder : f.save owner tests b.disk with ⟨r', d⟩
    rw [save_files hfolder] at hsave
    cases hsave
    exact hfinds.save htakes hfolder

/-- What is loaded from a store can be saved in it again. -/
theorem takes_of_load {k : Keeping} {owner : String} {tests : List Test} {b : Bench}
    (h : (store k).load owner b = .ok tests) : ∀ t ∈ tests, k.Takes t := by
  cases k with
  | memory => exact fun _ _ => trivial
  | files f => exact Folder.isDated_of_load h

/-! What happens -/

/-- The bench when something else went on at the engine for a while. The disk is left alone. -/
def elsewhere (b : Bench) (engine : Engine) (clock : Time.Instant) : Bench :=
  { b with engine := engine, clock := clock }.setDisk b.disk

inductive Happening where
  | deed (d : Suite.Deed)
  | meanwhile (engine : Engine) (clock : Time.Instant)

/-- The clock shows a time of the calendar. -/
def Happening.IsTimely : Happening → Prop
  | .deed _ => True
  | .meanwhile _ clock => clock.IsValid

instance (what : Happening) : Decidable what.IsTimely :=
  match what with
  | .deed _ => inferInstanceAs (Decidable True)
  | .meanwhile _ clock => inferInstanceAs (Decidable clock.IsValid)

/-- A suite, the attempts to save it, and the bench that it stands on, behind what happens. -/
def happen (k : Keeping) (options : RunOptions) (p : Suite × List Attempt × Bench) :
    Happening → Option (Suite × List Attempt × Bench)
  | .deed d => p.1.act (world k options).watched p.2 d
  | .meanwhile engine clock => some (p.1, p.2.1, p.2.2.elsewhere engine clock)

def history (k : Keeping) (options : RunOptions) (past : List Happening) (p : Suite × List Attempt × Bench) :
    Option (Suite × List Attempt × Bench) := past.foldlM (happen k options) p

section

variable {k : Keeping} {options : RunOptions} {opened s s' : Suite} {p p' : List Attempt × Bench}

theorem takes_judged {t : Test} {o : Outcome} {time : Time.Instant} (h : time.IsValid) :
    k.Takes (Suite.judged t o time) := by
  refine Keeping.takes_of_isDated (fun i hi => ?_) k
  cases hi
  exact h

theorem takes_newTest {id : Uuid} {source : String} {name? : Option String} :
    k.Takes (s.newTest id source name?) := by
  refine Keeping.takes_of_isDated (fun i hi => ?_) k
  cases hi

/-- What every attempt to save changed tests keeps, every program that is run, and every pause. -/
structure Lasting (k : Keeping) (options : RunOptions) (P : Suite → List Attempt × Bench → Prop) : Prop where
  timely : ∀ {s : Suite} {p : List Attempt × Bench}, P s p → p.2.clock.IsValid
  persist : ∀ {s : Suite} {p : List Attempt × Bench} {tests : List Test}, P s p →
    (∀ t ∈ tests, t ∈ s.tests ∨ k.Takes t) →
    P (s.withTests tests) ((s.withTests tests).persist (world k options).watched p)
  run : ∀ {s : Suite} {p p' : List Attempt × Bench} {source : String} {o : Outcome}, P s p →
    (world k options).watched.run source p = some (o, p') → P s p'
  elsewhere : ∀ {s : Suite} {p : List Attempt × Bench} {engine : Engine} {clock : Time.Instant}, P s p →
    clock.IsValid → P s (p.1, p.2.elsewhere engine clock)

namespace Lasting

variable {P : Suite → List Attempt × Bench → Prop}

/-- A test that was run is saved with its result. -/
theorem replace (hlasts : Lasting k options P) (h : P s p) (index : Nat) (t : Test) (o : Outcome) :
    P (s.replace index (Suite.judged t o ((world k options).watched.now p)))
      ((s.replace index (Suite.judged t o ((world k options).watched.now p))).persist
        (world k options).watched p) := by
  refine hlasts.persist h fun u hu => ?_
  obtain hu | rfl := List.mem_or_eq_of_mem_set hu
  · exact .inl hu
  · exact .inr (takes_judged (hlasts.timely h))

theorem runs (hlasts : Lasting k options P) (h : P s p) {main : String} {index : Nat} {os : List Outcome}
    (hruns : Suite.Runs (world k options).watched main index s p os s' p') : P s' p' := by
  induction hruns with
  | done => exact h
  | next _ hrun _ ih => exact ih (hlasts.replace (hlasts.run h hrun) _ _ _)

theorem done (hlasts : Lasting k options P) (h : P s p) {deed : Suite.Deed}
    (hdone : Suite.Done (world k options).watched s p deed s' p') : P s' p' := by
  cases hdone with
  | added id source name? =>
    refine hlasts.persist h fun t ht => ?_
    rw [List.mem_append, List.mem_singleton] at ht
    obtain ht | rfl := ht
    · exact .inl ht
    · exact .inr takes_newTest
  | absent => exact h
  | removed id t _ => exact hlasts.persist h fun u hu => .inl (List.mem_of_mem_eraseP hu)
  | ran id main index t o p₁ _ _ _ hrun => exact hlasts.replace (hlasts.run h hrun) index t o
  | ranAll main os _ _ hruns => exact hlasts.runs h hruns

theorem happen (hlasts : Lasting k options P) (h : P s p) {what : Happening} (hwhat : what.IsTimely)
    (hstep : happen k options (s, p) what = some (s', p')) : P s' p' := by
  cases what with
  | deed d => exact hlasts.done h (Suite.done_of_act hstep)
  | meanwhile engine clock =>
    cases hstep
    exact hlasts.elsewhere h hwhat

theorem history (hlasts : Lasting k options P) (h : P s p) {past : List Happening}
    (hpast : ∀ what ∈ past, what.IsTimely) (hhistory : history k options past (s, p) = some (s', p')) :
    P s' p' := by
  induction past generalizing s p with
  | nil =>
    cases hhistory
    exact h
  | cons what past ih =>
    rw [Bench.history, List.foldlM_cons] at hhistory
    obtain ⟨⟨s₁, p₁⟩, hstep, hhistory⟩ := Option.bind_eq_some_iff.1 hhistory
    have h₁ : P s₁ p₁ := hlasts.happen h (hpast what (by simp)) hstep
    exact ih h₁ (fun what' hwhat' => hpast what' (by simp [hwhat'])) hhistory

end Lasting

/-- How a suite stands behind its attempts to save it. -/
structure Kept (k : Keeping) (opened s : Suite) (p : List Attempt × Bench) : Prop where
  owner : s.owner = opened.owner
  finds : k.Finds opened.owner p.2
  timely : p.2.clock.IsValid
  takes : ∀ t ∈ s.tests, k.Takes t
  held : (store k).load opened.owner p.2 = .ok ((lastDone? p.1).getD opened.tests)
  tried : s.tests = (p.1.head?.map (·.tests)).getD opened.tests

/-- Changed tests are saved, and the suite stands behind one attempt more. -/
theorem Kept.persist (h : Kept k opened s p) {tests : List Test} (htakes : ∀ t ∈ tests, k.Takes t) :
    Kept k opened (s.withTests tests) ((s.withTests tests).persist (world k options).watched p) := by
  obtain ⟨log, b⟩ := p
  rcases hsave : (store k).save s.owner tests b with ⟨r, b'⟩
  have hpersist : (s.withTests tests).persist (world k options).watched (log, b) = (⟨tests, r.isOk⟩ :: log, b') :=
    Suite.persist_watched hsave log
  have halike : b.Alike b' := by
    have halike := alike_save k s.owner tests b
    rwa [hsave] at halike
  rw [h.owner] at hsave
  obtain ⟨hfinds, hload⟩ := load_save h.finds htakes hsave
  rw [hpersist]
  refine ⟨h.owner, hfinds, halike.clock ▸ h.timely, htakes, ?_, rfl⟩
  rw [hload]
  cases hr : r.isOk with
  | true => rfl
  | false => exact h.held

/-- A program that is run leaves the disk, the shelves and the clock as they were. -/
theorem same_of_run {b b' : Bench} {log log' : List Attempt} {source : String} {o : Outcome}
    (hrun : (world k options).watched.run source (log, b) = some (o, log', b')) :
    log' = log ∧ b'.disk = b.disk ∧ b'.shelves = b.shelves ∧ b'.clock = b.clock := by
  obtain ⟨⟨o₁, b₁⟩, hrun, hp⟩ := Option.map_eq_some_iff.1 hrun
  obtain ⟨⟨o₂, e⟩, hengine, hb⟩ := Option.map_eq_some_iff.1 hrun
  cases hb
  cases hp
  have hmachine := Engine.machine_of_run hengine
  exact ⟨rfl, congrArg Machine.disk hmachine, rfl, rfl⟩

theorem load_congr {b b' : Bench} (hdisk : b'.disk = b.disk) (hshelves : b'.shelves = b.shelves) (owner : String) :
    (store k).load owner b' = (store k).load owner b := by
  cases k with
  | memory =>
    change Store.memory.load owner b'.shelves = _
    rw [hshelves]
    rfl
  | files f =>
    change f.load owner b'.disk = _
    rw [hdisk]
    rfl

/-- A program that is run leaves all that is kept as it was. -/
theorem Kept.run (h : Kept k opened s p) {source : String} {o : Outcome}
    (hrun : (world k options).watched.run source p = some (o, p')) : Kept k opened s p' := by
  obtain ⟨log, b⟩ := p
  obtain ⟨log', b'⟩ := p'
  obtain ⟨rfl, hdisk, hshelves, hclock⟩ := same_of_run hrun
  have hheld : (store k).load opened.owner b' = .ok ((lastDone? log').getD opened.tests) :=
    (load_congr hdisk hshelves opened.owner).trans h.held
  refine ⟨h.owner, ?_, hclock ▸ h.timely, h.takes, hheld, h.tried⟩
  cases k with
  | memory => trivial
  | files f =>
    change f.Finds _ _
    rw [hdisk]
    exact h.finds

theorem Kept.elsewhere (h : Kept k opened s p) {engine : Engine} {clock : Time.Instant} (hclock : clock.IsValid) :
    Kept k opened s (p.1, p.2.elsewhere engine clock) := by
  cases k <;> exact ⟨h.owner, h.finds, hclock, h.takes, h.held, h.tried⟩

theorem lasting_kept (k : Keeping) (options : RunOptions) (opened : Suite) : Lasting k options (Kept k opened) where
  timely h := h.timely
  persist h htakes := h.persist fun t ht => (htakes t ht).elim (h.takes t) id
  run h hrun := h.run hrun
  elsewhere h hclock := h.elsewhere hclock

/-- An opened suite stands as it was loaded. -/
theorem kept_of_load {owner : String} {b : Bench} (hopen : Suite.load (world k options) owner b = .ok opened)
    (hclock : b.clock.IsValid) (hfinds : k.Finds owner b) : Kept k opened opened ([], b) := by
  obtain ⟨rfl, hload⟩ := Suite.load_eq_ok_iff.1 hopen
  exact ⟨rfl, hfinds, hclock, takes_of_load hload, hload, rfl⟩

/-- Where saves are kept, and whether they are done, makes no difference to a suite. -/
theorem history_like (k' : Keeping) (past : List Happening) {q : List Attempt × Bench} (h : Noted Alike p q) :
    Option.Rel (fun r r' => r.1 = r'.1 ∧ Noted Alike r.2 r'.2) (history k options past (s, p))
      (history k' options past (s, q)) := by
  induction past generalizing s p q with
  | nil => exact .some ⟨rfl, h⟩
  | cons what past ih =>
    rw [history, history, List.foldlM_cons, List.foldlM_cons]
    refine rel_bind (R := fun r r' => r.1 = r'.1 ∧ Noted Alike r.2 r'.2) ?_ ?_
    · cases what with
      | deed d => exact Suite.act_like (like_world k k' options).watched h d
      | meanwhile engine clock => exact .some ⟨rfl, h.1, rfl, rfl⟩
    · rintro ⟨s₁, p₁⟩ ⟨_, q₁⟩ ⟨rfl, hq⟩
      exact ih hq

end

/-- Whatever was done to a suite that was opened, and whatever became of the saves: what is done next changes its tests
as an ordered collection, the whole history would be the same on any other store, and the store gives back the tests
of the last save that was done, or those that were opened. Behind a save that was done the suite that is opened again
is the same. -/
theorem suite_in_step_with_store {k : Keeping} {options : RunOptions} {owner : String} {b₀ b : Bench} {opened s : Suite}
    {past : List Happening} {log : List Attempt} (hopen : Suite.load (world k options) owner b₀ = .ok opened)
    (hclock : b₀.clock.IsValid) (hfinds : k.Finds owner b₀) (hpast : ∀ what ∈ past, what.IsTimely)
    (hhistory : history k options past (opened, [], b₀) = some (s, log, b)) :
    (∀ deed : Suite.Deed,
      (deed.runs = false → (s.act (world k options).watched (log, b) deed).isSome = true) ∧
      (∀ id, deed.target? = some id → (∀ t ∈ s.tests, t.id ≠ id) →
        s.act (world k options).watched (log, b) deed = some (s, log, b)) ∧
      ∀ s' p', s.act (world k options).watched (log, b) deed = some (s', p') →
        s'.owner = owner ∧ deed.Turns s.tests s'.tests) ∧
    (∀ (k' : Keeping) (b₀' : Bench), b₀.Alike b₀' →
      ∃ log' b', history k' options past (opened, [], b₀') = some (s, log', b') ∧
        log'.map (·.tests) = log.map (·.tests)) ∧
    (store k).load owner b = .ok ((lastDone? log).getD opened.tests) ∧
    s.tests = (log.head?.map (·.tests)).getD opened.tests ∧
    ∀ a more, log = a :: more → a.done = true →
      (store k).load owner b = .ok s.tests ∧ Suite.load (world k options) owner b = .ok s := by
  have hkept := (lasting_kept k options opened).history (kept_of_load hopen hclock hfinds) hpast hhistory
  obtain ⟨rfl, _⟩ := Suite.load_eq_ok_iff.1 hopen
  refine ⟨fun deed => ⟨Suite.isSome_act, fun id => Suite.act_of_absent, fun s' p' hact => ?_⟩, fun k' b₀' halike => ?_,
    hkept.held, hkept.tried, ?_⟩
  · obtain ⟨hsame, hturns⟩ := (Suite.done_of_act hact).turns
    exact ⟨hsame.trans hkept.owner, hturns⟩
  · have hlike := @history_like k options opened ([], b₀) k' past ([], b₀') ⟨rfl, halike⟩
    rw [hhistory] at hlike
    cases hother : history k' options past (opened, [], b₀') with
    | none =>
      rw [hother] at hlike
      cases hlike
    | some r =>
      obtain ⟨s', log', b'⟩ := r
      rw [hother] at hlike
      obtain ⟨rfl, hlog, _⟩ := hlike
      exact ⟨log', b', rfl, hlog.symm⟩
  · rintro a more rfl hdone
    have hlast : lastDone? (a :: more) = some a.tests := by
      unfold lastDone?
      rw [List.find?_cons, hdone]
      rfl
    have hload : (store k).load opened.owner b = .ok s.tests := by
      have hheld := hkept.held
      rw [hlast] at hheld
      rw [hheld, hkept.tried]
      rfl
    exact ⟨hload, Suite.load_eq_ok_iff.2 ⟨hkept.owner, hload⟩⟩

theorem fileName_ana : fileName "ana" = "ana.json" := by
  rw [fileName, plainName_of_all (by decide)]
  rfl

theorem temporaryName_ana : temporaryName "ana" = "ana.json.tmp" := by
  rw [temporaryName, plainName_of_all (by decide)]
  rfl

def leapDay : Time.Instant := ⟨⟨2024, 2, 29⟩, 0, 0, 0⟩

theorem isValid_leapDay : leapDay.IsValid := by decide

/-- A bench with a disk, on which nothing was started yet. -/
def around (d : Disk) : Bench :=
  ⟨.initial ⟨"python3", "/run", 1000, true⟩
    ⟨d, [], [], none, fun _ => ⟨⟨false, [], .goesOn⟩, fun _ => ⟨false, [], .goesOn⟩⟩, 0⟩, .empty,
    leapDay⟩

/-- A disk without entries that refuses the next change. -/
def refusedOnce : Disk := ⟨[], [some (.refused .permissionDenied)]⟩

/-- The deed that adds a test with a number. -/
def adding (n : Nat) : Suite.Deed := .add (.version4 n) "def test_a(): pass" none

/-- Two tests are added, and a day goes by between them. -/
def twoDays : List Happening :=
  [.deed (adding 1), .meanwhile (around .empty).engine ⟨⟨2024, 3, 1⟩, 0, 0, 0⟩, .deed (adding 2)]

/-- The test that the deed adds to a suite. -/
def added (s : Suite) (n : Nat) : Test := s.newTest (.version4 n) "def test_a(): pass" none

theorem happen_adding {f : Folder} {b : Bench} {r : Except StoreError Unit} {d : Disk} (options : RunOptions)
    (n : Nat) (s : Suite) (log : List Attempt)
    (h : f.save s.owner (s.tests ++ [added s n]) b.disk = (r, d)) :
    happen (.files f) options (s, log, b) (.deed (adding n)) =
      some (s.withTests (s.tests ++ [added s n]), ⟨s.tests ++ [added s n], r.isOk⟩ :: log, b.setDisk d) := by
  have hsave : (world (.files f) options).store.save s.owner (s.tests ++ [added s n]) b = (r, b.setDisk d) :=
    save_files h
  have hpersist := @Suite.persist_watched _ _ (s.withTests (s.tests ++ [added s n])) _ _ _ hsave log
  exact congrArg some (Prod.ext rfl hpersist)

theorem save_refusedOnce (a : String) (tests : List Test) :
    ∃ e, Store.bare.save a tests refusedOnce = (.error e, .empty) := by
  have hmade : refusedOnce.makeDirectories Store.bare.path = (.ok (), refusedOnce) := rfl
  unfold Folder.save
  rw [hmade]
  dsimp only
  unfold Disk.write refusedOnce Disk.nextMishap
  dsimp only
  cases Disk.writable ⟨[], []⟩ (Store.bare.temporary a) with
  | error e => exact ⟨_, rfl⟩
  | ok location => exact ⟨_, rfl⟩

theorem finds_refusedOnce (owner : String) : Store.bare.Finds owner refusedOnce := by
  refine Folder.finds_of_no_up (by decide) (fun q name hsome => ?_) owner
  have hnone : refusedOnce.find? (q ++ [name]) = none := if_neg (by simp)
  rw [hnone] at hsome
  cases hsome

/-- The first of two tests is not saved when it is added. It is saved with the second one. -/
theorem suite_in_step_with_store_refused_once :
    ∃ (s : Suite) (log : List Attempt) (b : Bench),
      Suite.load (world (.files Store.bare) ⟨none, "main"⟩) "ana" (around refusedOnce) = .ok ⟨"ana", []⟩ ∧
      (around refusedOnce).clock.IsValid ∧ (Keeping.files Store.bare).Finds "ana" (around refusedOnce) ∧
      (∀ what ∈ twoDays, what.IsTimely) ∧
      history (.files Store.bare) ⟨none, "main"⟩ twoDays (⟨"ana", []⟩, [], around refusedOnce) = some (s, log, b) ∧
      log.map (·.done) = [true, false] ∧ s.tests.length = 2 ∧
      Suite.load (world (.files Store.bare) ⟨none, "main"⟩) "ana" b = .ok s := by
  have hopen : Suite.load (world (.files Store.bare) ⟨none, "main"⟩) "ana" (around refusedOnce) = .ok ⟨"ana", []⟩ :=
    Suite.load_eq_ok_iff.2 ⟨rfl, Folder.load_of_none (Store.isFresh_bare "ana")⟩
  have hfinds : (Keeping.files Store.bare).Finds "ana" (around refusedOnce) := finds_refusedOnce "ana"
  have htimely : ∀ what ∈ twoDays, what.IsTimely := by decide
  let t₁ := added ⟨"ana", []⟩ 1
  let t₂ := added ⟨"ana", [t₁]⟩ 2
  have hfits : Path.fits (temporaryName "ana") = true := by
    rw [temporaryName_ana]
    decide
  obtain ⟨e, hfirst⟩ := save_refusedOnce "ana" [t₁]
  obtain ⟨d, hsecond⟩ := Store.save_bare hfits [t₁, t₂]
  let b₁ := (around refusedOnce).setDisk .empty
  let b₂ := b₁.elsewhere (around .empty).engine ⟨⟨2024, 3, 1⟩, 0, 0, 0⟩
  have hadded := @happen_adding _ (around refusedOnce) _ _ ⟨none, "main"⟩ 1 ⟨"ana", []⟩ [] hfirst
  have hadded' := @happen_adding _ b₂ _ _ ⟨none, "main"⟩ 2 ⟨"ana", [t₁]⟩ [⟨[t₁], false⟩] hsecond
  have hhistory : history (.files Store.bare) ⟨none, "main"⟩ twoDays (⟨"ana", []⟩, [], around refusedOnce) =
      some (⟨"ana", [t₁, t₂]⟩, [⟨[t₁, t₂], true⟩, ⟨[t₁], false⟩], b₂.setDisk d) := by
    rw [history, twoDays, List.foldlM_cons, hadded]
    change (happen (.files Store.bare) ⟨none, "main"⟩ (⟨"ana", [t₁]⟩, [⟨[t₁], false⟩], b₂) (.deed (adding 2))).bind
      some = _
    rw [hadded']
    rfl
  obtain ⟨_, _, _, _, hlast⟩ := suite_in_step_with_store hopen isValid_leapDay hfinds htimely hhistory
  exact ⟨_, _, _, hopen, isValid_leapDay, hfinds, htimely, hhistory, rfl, rfl, (hlast _ _ rfl rfl).2⟩

/-- A save fails, and what was opened cannot be opened again. -/
def OutOfStep (f : Folder) (d : Disk) : Prop :=
  ∃ (s : Suite) (log : List Attempt) (b : Bench),
    Suite.load (world (.files f) ⟨none, "main"⟩) "ana" (around d) = .ok ⟨"ana", []⟩ ∧
    (around d).clock.IsValid ∧
    history (.files f) ⟨none, "main"⟩ [.deed (adding 1)] (⟨"ana", []⟩, [], around d) = some (s, log, b) ∧
    lastDone? log = none ∧ (store (.files f)).load "ana" b ≠ .ok ((lastDone? log).getD [])

theorem outOfStep_of_save {f : Folder} {d : Disk} (hopen : f.load "ana" d = .ok [])
    (hsave : ∀ tests, ∃ e d' e', f.save "ana" tests d = (.error e, d') ∧ f.load "ana" d' = .error e') :
    OutOfStep f d := by
  obtain ⟨e, d', e', hsave, hload⟩ := hsave [added ⟨"ana", []⟩ 1]
  have hadded := @happen_adding _ (around d) _ _ ⟨none, "main"⟩ 1 ⟨"ana", []⟩ [] hsave
  refine ⟨⟨"ana", [added ⟨"ana", []⟩ 1]⟩, [⟨[added ⟨"ana", []⟩ 1], false⟩], (around d).setDisk d',
    Suite.load_eq_ok_iff.2 ⟨rfl, hopen⟩, isValid_leapDay, ?_, rfl, ?_⟩
  · rw [history, List.foldlM_cons, hadded]
    rfl
  · have herror : (store (.files f)).load "ana" ((around d).setDisk d') = .error e' := hload
    rw [herror]
    exact nofun

/-- A folder whose path leads over the place of a file. -/
def detour : Folder := ⟨⟨[], "ana.json/.."⟩⟩

/-- A folder whose path leads through a directory that is not there. -/
def byway : Folder := ⟨⟨[], "new/../tests"⟩⟩

/-- A disk with a file for the tests, and a directory where the temporary file should be. -/
def blocked : Disk :=
  (Disk.empty.plant ["tests", "ana.json"] (.file [])).plant ["tests", "ana.json.tmp"] .directory

/-- The directory that is made on the way stands where the file should be, or opens a way to another file. -/
theorem suite_out_of_step_with_store : OutOfStep detour .empty ∧ OutOfStep byway blocked := by
  constructor
  · refine outOfStep_of_save ?_ fun tests => ?_
    · unfold Folder.load Folder.file
      rw [fileName_ana]
      rfl
    · unfold Folder.save Folder.load Folder.file Folder.temporary
      rw [fileName_ana, temporaryName_ana]
      exact ⟨_, _, _, rfl, rfl⟩
  · refine outOfStep_of_save ?_ fun tests => ?_
    · unfold Folder.load Folder.file
      rw [fileName_ana]
      rfl
    · unfold Folder.save Folder.load Folder.file Folder.temporary
      rw [fileName_ana, temporaryName_ana]
      exact ⟨_, _, _, rfl, rfl⟩

end Bench

end ScriptBench
