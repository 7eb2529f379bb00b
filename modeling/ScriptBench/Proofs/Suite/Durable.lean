import ScriptBench.Proofs.Suite.Reopened

/-! What the store holds while all tests are run. Each result is saved before the next test starts, so a run that is
stopped loses at most the result of the test that was running. -/
namespace ScriptBench

/-- A run of a program: what was run, and the states in which it began and ended. -/
structure ProgramRun (ω : Type) where
  source : String
  start : ω
  outcome : Outcome
  finish : ω

/-- A world in which each run of a program is noted, behind those before it. -/
def World.noted {ω : Type} (world : World ω) : World (List (ProgramRun ω) × ω) where
  store :=
    { load := fun owner p => world.store.load owner p.2
      save := fun owner tests p =>
        let (r, w) := world.store.save owner tests p.2
        (r, (p.1, w)) }
  run source p := (world.run source p.2).map fun (o, w) => (o, (p.1 ++ [⟨source, p.2, o, w⟩], w))
  now p := world.now p.2

theorem World.like_noted {ω : Type} (world : World ω) :
    World.Like (fun (p : List (ProgramRun ω) × ω) w => p.2 = w) world.noted world := by
  refine ⟨?_, ?_, ?_⟩
  · rintro p w rfl
    rfl
  · rintro source p w rfl
    change Option.Rel _ ((world.run source p.2).map _) (world.run source p.2)
    cases world.run source p.2 with
    | none => exact .none
    | some r => exact .some ⟨rfl, rfl⟩
  · rintro owner tests p w rfl
    rfl

namespace Suite

variable {ω : Type} {world : World ω} {main : String} {s s' : Suite} {w w' : ω} {summary summary' : Summary}

theorem runFrom_of_none {count index : Nat} (h : s.tests[index]? = none) :
    runFrom world main count index summary s w = some (summary, s, w) := by
  cases count with
  | zero => rfl
  | succ count => rw [runFrom, h]

theorem runFrom_succ {count index : Nat} {t : Test} (h : s.tests[index]? = some t) :
    runFrom world main (count + 1) index summary s w =
      (s.runAt world index t main w).bind fun r =>
        runFrom world main count (index + 1) (summary.record r.1.status) r.2.1 r.2.2 := by
  rw [runFrom, h]
  rfl

/-- A run goes on from where its beginning ends. -/
theorem runFrom_add (m n index : Nat) :
    runFrom world main (m + n) index summary s w =
      (runFrom world main m index summary s w).bind fun r => runFrom world main n (index + m) r.1 r.2.1 r.2.2 := by
  induction m generalizing index summary s w with
  | zero =>
    rw [Nat.zero_add]
    rfl
  | succ m ih =>
    cases hget : s.tests[index]? with
    | none =>
      have hbehind : s.tests[index + (m + 1)]? = none := by
        rw [List.getElem?_eq_none_iff] at hget ⊢
        omega
      rw [runFrom_of_none hget, runFrom_of_none hget, Option.bind_some, runFrom_of_none hbehind]
    | some t =>
      rw [Nat.succ_add, runFrom_succ hget, runFrom_succ hget, Option.bind_assoc]
      congr 1
      funext r
      rw [ih, Nat.add_assoc, Nat.add_comm 1 m]

theorem exists_agree {ω' : Type} {world' : World ω'} {alike : ω → ω' → Prop} {v : ω'} {count index : Nat}
    (hlike : World.Like alike world world') (hw : alike w v)
    (h : runFrom world main count index summary s w = some (summary', s', w')) :
    ∃ v', runFrom world' main count index summary s v = some (summary', s', v') ∧ alike w' v' := by
  have hrel : Option.Rel (Agree alike) (runFrom world main count index summary s w)
      (runFrom world' main count index summary s v) := runFrom_like hlike hw count index summary
  rw [h] at hrel
  revert hrel
  generalize runFrom world' main count index summary s v = r
  intro hrel
  cases hrel with
  | some hagree =>
    obtain ⟨rfl, rfl, hv⟩ := hagree
    exact ⟨_, rfl, hv⟩

/-- Notes and watches do not change what a run does. -/
theorem runFrom_of_noted {count index : Nat} {calls calls' : List (ProgramRun (List Attempt × ω))}
    {log log' : List Attempt} (h : runFrom world.watched.noted main count index summary s (calls, log, w) =
      some (summary', s', calls', log', w')) :
    runFrom world main count index summary s w = some (summary', s', w') := by
  obtain ⟨p, hwatched, rfl⟩ := exists_agree world.watched.like_noted rfl h
  obtain ⟨v, hrun, rfl⟩ := exists_agree world.like_watched rfl hwatched
  exact hrun

/-- A run of one test is noted, and the rest is done as ever. -/
theorem runAt_noted {index : Nat} {t t' : Test} {calls calls' : List (ProgramRun ω)}
    (h : s.runAt world.noted index t main (calls, w) = some (t', s', calls', w')) :
    ∃ o w₁, world.run (script t main) w = some (o, w₁) ∧ t' = judged t o (world.now w₁) ∧
      s' = s.replace index t' ∧ calls' = calls ++ [⟨script t main, w, o, w₁⟩] ∧ w' = s'.persist world w₁ := by
  obtain ⟨o, p, hnoted, rfl, rfl, hsaved⟩ := runAt_eq_some_iff.1 h
  obtain ⟨⟨o', w₁⟩, hrun, hp⟩ := Option.map_eq_some_iff.1 hnoted
  cases hp
  cases hsaved
  exact ⟨o, w₁, hrun, rfl, rfl, rfl, rfl⟩

end Suite

namespace Bench

variable {k : Keeping} {options : RunOptions} {owner main : String} {s s' : Suite} {p p' : List Attempt × Bench}

/-- Tests that were saved are loaded. -/
theorem load_of_saved {tests : List Test} {b b' : Bench} (htakes : ∀ t ∈ tests, k.Takes t)
    (hsave : (store k).save owner tests b = (.ok (), b')) : (store k).load owner b' = .ok tests := by
  cases k with
  | memory =>
    cases hsave
    change Except.ok (((Dictionary.insert b.shelves owner tests).get? owner).getD []) = _
    rw [Dictionary.get?_insert_self]
    rfl
  | files f =>
    rcases hfolder : f.save owner tests b.disk with ⟨r, d⟩
    rw [save_files hfolder] at hsave
    cases hsave
    have hsaved := Folder.saved_save hfolder
    exact Folder.load_of_file (hsaved.leads rfl) (hsaved.file rfl) htakes

/-- The store holds the tests of a suite, if every attempt to save them was done. -/
structure InStep (k : Keeping) (owner : String) (s : Suite) (p : List Attempt × Bench) : Prop where
  owned : s.owner = owner
  timely : p.2.clock.IsValid
  takes : ∀ t ∈ s.tests, k.Takes t
  held : (∀ a ∈ p.1, a.done = true) → (store k).load owner p.2 = .ok s.tests

theorem InStep.persist (h : InStep k owner s p) {tests : List Test} (htakes : ∀ t ∈ tests, k.Takes t) :
    InStep k owner (s.withTests tests) ((s.withTests tests).persist (world k options).watched p) := by
  obtain ⟨log, b⟩ := p
  rcases hsave : (store k).save s.owner tests b with ⟨r, b'⟩
  have hpersist : (s.withTests tests).persist (world k options).watched (log, b) = (⟨tests, r.isOk⟩ :: log, b') :=
    Suite.persist_watched hsave log
  have halike : b.Alike b' := by
    have halike := alike_save k s.owner tests b
    rwa [hsave] at halike
  rw [hpersist]
  refine ⟨h.owned, halike.clock ▸ h.timely, htakes, fun hdone => ?_⟩
  have hok : r.isOk = true := hdone _ List.mem_cons_self
  cases r with
  | error e => cases hok
  | ok u => exact load_of_saved htakes (h.owned ▸ hsave)

theorem lasting_inStep (k : Keeping) (options : RunOptions) (owner : String) :
    Lasting k options (InStep k owner) where
  timely h := h.timely
  persist h htakes := h.persist fun t ht => (htakes t ht).elim (h.takes t) id
  run {s p p' source o} h hrun := by
    obtain ⟨log, b⟩ := p
    obtain ⟨log', b'⟩ := p'
    obtain ⟨rfl, hdisk, hshelves, hclock⟩ := same_of_run hrun
    exact ⟨h.owned, hclock ▸ h.timely, h.takes, fun hdone => (load_congr hdisk hshelves owner).trans (h.held hdone)⟩
  elsewhere h hclock := by
    cases k <;> exact ⟨h.owned, hclock, h.takes, h.held⟩

theorem inStep_of_load {b : Bench} (hopen : Suite.load (world k options) owner b = .ok s) (hclock : b.clock.IsValid) :
    InStep k owner s ([], b) := by
  obtain ⟨howner, hload⟩ := Suite.load_eq_ok_iff.1 hopen
  exact ⟨howner, hclock, takes_of_load hload, fun _ => hload⟩

/-- Where a run of all tests stands behind the first `n` of them. -/
structure Midway (k : Keeping) (options : RunOptions) (owner main : String) (s : Suite) (n : Nat)
    (calls : List (ProgramRun (List Attempt × Bench))) (s' : Suite) (p' : List Attempt × Bench) : Prop where
  /-- Each of them was run once, in order. -/
  sources : calls.map (·.source) = (s.tests.take n).map (Suite.script · main)
  /-- Each has the result of its own run. -/
  results : ∀ (i : Nat) (t : Test) (c : ProgramRun (List Attempt × Bench)), s.tests[i]? = some t →
    calls[i]? = some c → (world k options).run c.source c.start.2 = some (c.outcome, c.finish.2) ∧
    s'.tests[i]? = some (Suite.judged t c.outcome c.finish.2.clock)
  /-- The others are as they were. -/
  others : s'.tests.drop n = s.tests.drop n
  /-- When a run began, the store held the results of those before it, and the others as they were. -/
  stored : ∀ (i : Nat) (c : ProgramRun (List Attempt × Bench)), calls[i]? = some c →
    (store k).load owner c.start.2 = .ok (s'.tests.take i ++ s.tests.drop i)
  /-- The store holds the results of all of them, and the others as they were. -/
  held : (store k).load owner p'.2 = .ok (s'.tests.take n ++ s.tests.drop n)

section

variable {n : Nat} {calls : List (ProgramRun (List Attempt × Bench))}

theorem Midway.length_calls (h : Midway k options owner main s n calls s' p) :
    calls.length = min n s.tests.length := by
  have hlengths := congrArg List.length h.sources
  rwa [List.length_map, List.length_map, List.length_take] at hlengths

/-- One more test is run, and its result is saved. -/
theorem Midway.next (h : Midway k options owner main s n calls s' p) {t : Test} (ht : s.tests[n]? = some t)
    {o : Outcome} (hrun : (world k options).watched.run (Suite.script t main) p = some (o, p'))
    {p'' : List Attempt × Bench}
    (hheld : (store k).load owner p''.2 = .ok (s'.tests.set n (Suite.judged t o p'.2.clock))) :
    Midway k options owner main s (n + 1) (calls ++ [⟨Suite.script t main, p, o, p'⟩])
      (s'.replace n (Suite.judged t o p'.2.clock)) p'' := by
  obtain ⟨hn, hget⟩ := List.getElem?_eq_some_iff.1 ht
  have hlength : calls.length = n := by
    rw [h.length_calls]
    omega
  have hn' : n < s'.tests.length := by
    have hlengths := congrArg List.length h.others
    rw [List.length_drop, List.length_drop] at hlengths
    omega
  have hfront : ∀ i ≤ n, (s'.tests.set n (Suite.judged t o p'.2.clock)).take i = s'.tests.take i :=
    fun i hi => List.take_set_of_le hi
  have hbehind : (s'.tests.set n (Suite.judged t o p'.2.clock)).drop (n + 1) = s.tests.drop (n + 1) := by
    rw [List.drop_set_of_lt (by omega), ← List.drop_drop, h.others, List.drop_drop]
  refine ⟨?_, fun i u c hu hc => ?_, hbehind, fun i c hc => ?_, ?_⟩
  · rw [List.map_append, h.sources, List.take_add_one, ht, List.map_append]
    rfl
  · obtain hlt | rfl | hgt := Nat.lt_trichotomy i n
    · rw [List.getElem?_append_left (by omega)] at hc
      obtain ⟨hran, hresult⟩ := h.results i u c hu hc
      refine ⟨hran, ?_⟩
      rw [Suite.replace_tests, List.getElem?_set_ne (by omega)]
      exact hresult
    · rw [List.getElem?_append_right (by omega), hlength, Nat.sub_self] at hc
      rw [ht] at hu
      cases hu
      cases hc
      obtain ⟨⟨o', b'⟩, hplain, hp⟩ := Option.map_eq_some_iff.1 hrun
      cases hp
      exact ⟨hplain, List.getElem?_set_self hn'⟩
    · rw [List.getElem?_append_right (by omega), List.getElem?_eq_none (by simp; omega)] at hc
      cases hc
  · rw [Suite.replace_tests]
    obtain hlt | rfl | hgt := Nat.lt_trichotomy i n
    · rw [List.getElem?_append_left (by omega)] at hc
      rw [hfront i (by omega)]
      exact h.stored i c hc
    · rw [List.getElem?_append_right (by omega), hlength, Nat.sub_self] at hc
      cases hc
      rw [hfront i (by omega)]
      exact h.held
    · rw [List.getElem?_append_right (by omega), List.getElem?_eq_none (by simp; omega)] at hc
      cases hc
  · rw [hheld, Suite.replace_tests, ← hbehind, List.take_append_drop]

/-- Behind the last test nothing is run any more. -/
theorem Midway.past (h : Midway k options owner main s n calls s' p) (hn : s'.tests[n]? = none) :
    Midway k options owner main s (n + 1) calls s' p := by
  have hlong : s'.tests.length ≤ n := List.getElem?_eq_none_iff.1 hn
  have hdrop : s.tests.drop n = [] := by
    rw [← h.others]
    exact List.drop_eq_nil_of_le hlong
  have hlength : s.tests.length ≤ n := List.drop_eq_nil_iff.1 hdrop
  have htake : s.tests.take n = s.tests.take (n + 1) := by
    rw [List.take_of_length_le hlength, List.take_of_length_le (by omega)]
  have hheld := h.held
  rw [hdrop, List.append_nil, List.take_of_length_le hlong] at hheld
  refine ⟨htake ▸ h.sources, h.results, ?_, h.stored, ?_⟩
  · rw [List.drop_eq_nil_of_le (by omega), List.drop_eq_nil_of_le (by omega)]
  · rw [hheld, List.take_of_length_le (by omega), List.drop_eq_nil_of_le (by omega), List.append_nil]

/-- The first tests of a suite are run one behind the other, and every attempt to save them is done. -/
theorem midway_of_runFrom {log log' : List Attempt} {b b' : Bench} {summary : Summary} (h : InStep k owner s (log, b))
    (hrun : Suite.runFrom (world k options).watched.noted main n 0 .empty s ([], log, b) =
      some (summary, s', calls, log', b')) (hdone : ∀ a ∈ log', a.done = true) :
    InStep k owner s' (log', b') ∧ Midway k options owner main s n calls s' (log', b') := by
  induction n generalizing summary s' calls log' b' with
  | zero =>
    cases hrun
    refine ⟨h, rfl, fun i t c _ hc => ?_, rfl, fun i c hc => ?_, h.held hdone⟩
    · cases hc
    · cases hc
  | succ n ih =>
    rw [Suite.runFrom_add] at hrun
    obtain ⟨⟨summary₁, s₁, calls₁, log₁, b₁⟩, hfirst, hlast⟩ := Option.bind_eq_some_iff.1 hrun
    dsimp only at hlast
    rw [Nat.zero_add] at hlast
    cases hget : s₁.tests[n]? with
    | none =>
      rw [Suite.runFrom_of_none hget] at hlast
      cases hlast
      obtain ⟨hstep, hmid⟩ := ih hfirst hdone
      exact ⟨hstep, hmid.past hget⟩
    | some t =>
      rw [Suite.runFrom_succ hget] at hlast
      obtain ⟨⟨t', s₂, p₂⟩, hat, hlast⟩ := Option.bind_eq_some_iff.1 hlast
      cases hlast
      obtain ⟨o, p₁, hran, rfl, rfl, rfl, hsaved⟩ := Suite.runAt_noted hat
      have hlog : log' = ⟨_, _⟩ :: p₁.1 := congrArg Prod.fst hsaved
      have hsame : p₁.1 = log₁ := (same_of_run hran).1
      have hdone₁ : ∀ a ∈ log₁, a.done = true := by
        intro a ha
        refine hdone a ?_
        rw [hlog, hsame]
        exact List.mem_cons_of_mem _ ha
      obtain ⟨hstep, hmid⟩ := ih hfirst hdone₁
      have ht : s.tests[n]? = some t := by
        have hdrops := congrArg List.head? hmid.others
        rwa [List.head?_drop, List.head?_drop, hget, eq_comm] at hdrops
      have hlasts := lasting_inStep k options owner
      have hstep' := hlasts.replace (hlasts.run hstep hran) n t o
      rw [← hsaved] at hstep'
      exact ⟨hstep', hmid.next ht hran (hstep'.held hdone)⟩

end

/-- While all tests of a suite are run, and every attempt to save them is done, each test is run once, in order, and
when a run begins the store holds the results of those before it and all others as they were. Where the run stands
behind `n` tests, it goes on with the next one. -/
theorem results_stored_before_next_run {b₀ b b' : Bench} {opened : Suite} {past : List Happening}
    {log log' : List Attempt} {n : Nat} {summary : Summary} {calls : List (ProgramRun (List Attempt × Bench))}
    (hopen : Suite.load (world k options) owner b₀ = .ok opened) (hclock : b₀.clock.IsValid)
    (hpast : ∀ what ∈ past, what.IsTimely) (hhistory : history k options past (opened, [], b₀) = some (s, log, b))
    (hrun : Suite.runFrom (world k options).watched.noted main n 0 .empty s ([], log, b) =
      some (summary, s', calls, log', b')) (hdone : ∀ a ∈ log', a.done = true) :
    Midway k options owner main s n calls s' (log', b') ∧
    Suite.runFrom (world k options) main n 0 .empty s b = some (summary, s', b') ∧
    (n = s.tests.length → s.runAll (world k options) main b = some (summary, s', b')) ∧
    ∀ t, s.tests[n]? = some t → s.runAll (world k options) main b =
      ((world k options).run (Suite.script t main) b').bind fun r =>
        let t' := Suite.judged t r.1 r.2.clock
        Suite.runFrom (world k options) main (s.tests.length - (n + 1)) (n + 1) (summary.record t'.status)
          (s'.replace n t') ((s'.replace n t').persist (world k options) r.2) := by
  have hstep : InStep k owner s (log, b) :=
    (lasting_inStep k options owner).history (inStep_of_load hopen hclock) hpast hhistory
  obtain ⟨_, hmid⟩ := midway_of_runFrom hstep hrun hdone
  have hplain := Suite.runFrom_of_noted hrun
  refine ⟨hmid, hplain, ?_, fun t ht => ?_⟩
  · rintro rfl
    exact hplain
  · obtain ⟨hn, _⟩ := List.getElem?_eq_some_iff.1 ht
    have ht' : s'.tests[n]? = some t := by
      have hheads := congrArg List.head? hmid.others
      rwa [List.head?_drop, List.head?_drop, ht] at hheads
    have hcount : s.tests.length = n + (s.tests.length - (n + 1) + 1) := by omega
    rw [Suite.runAll, hcount, Suite.runFrom_add, hplain, Option.bind_some, Nat.zero_add, Suite.runFrom_succ ht',
      ← hcount]
    unfold Suite.runAt
    rw [Option.bind_eq_bind, Option.bind_assoc]
    rfl

/-- The store holds the result of the first of two tests before the second one is run. -/
theorem results_stored_before_next_run_of_two :
    ∃ (s s' : Suite) (log log' : List Attempt) (b b' : Bench) (summary : Summary)
      (calls : List (ProgramRun (List Attempt × Bench))),
      Suite.load (world .memory ⟨none, "main"⟩) "ana" (around .empty) = .ok ⟨"ana", []⟩ ∧
      (around .empty).clock.IsValid ∧ (∀ what ∈ twoDays, what.IsTimely) ∧
      history .memory ⟨none, "main"⟩ twoDays (⟨"ana", []⟩, [], around .empty) = some (s, log, b) ∧
      Suite.runFrom (world .memory ⟨none, "main"⟩).watched.noted "" 1 0 .empty s ([], log, b) =
        some (summary, s', calls, log', b') ∧ (∀ a ∈ log', a.done = true) ∧ s.tests.length = 2 ∧
      ∃ t, (store .memory).load "ana" b' = .ok (t :: s.tests.drop 1) ∧ t.status = .error := by
  have hopen : Suite.load (world .memory ⟨none, "main"⟩) "ana" (around .empty) = .ok ⟨"ana", []⟩ := rfl
  have htimely : ∀ what ∈ twoDays, what.IsTimely := by decide
  let t₁ := added ⟨"ana", []⟩ 1
  let t₂ := added ⟨"ana", [t₁]⟩ 2
  let t := Suite.judged t₁ .notReady ⟨⟨2024, 3, 1⟩, 0, 0, 0⟩
  let shelves : Shelves := Dictionary.insert (Dictionary.empty.insert "ana" [t₁]) "ana" [t₁, t₂]
  let b : Bench := ⟨(around .empty).engine, shelves, ⟨⟨2024, 3, 1⟩, 0, 0, 0⟩⟩
  have hhistory : history .memory ⟨none, "main"⟩ twoDays (⟨"ana", []⟩, [], around .empty) =
    some (⟨"ana", [t₁, t₂]⟩, [⟨[t₁, t₂], true⟩, ⟨[t₁], true⟩], b) := rfl
  have hrun : Suite.runFrom (world .memory ⟨none, "main"⟩).watched.noted "" 1 0 .empty ⟨"ana", [t₁, t₂]⟩
      ([], [⟨[t₁, t₂], true⟩, ⟨[t₁], true⟩], b) =
    some (_, ⟨"ana", [t, t₂]⟩, _, [⟨[t, t₂], true⟩, ⟨[t₁, t₂], true⟩, ⟨[t₁], true⟩], _) := rfl
  have hdone : ∀ a ∈ [⟨[t, t₂], true⟩, ⟨[t₁, t₂], true⟩, (⟨[t₁], true⟩ : Attempt)], a.done = true := by simp
  obtain ⟨hmid, _⟩ := results_stored_before_next_run hopen isValid_leapDay htimely hhistory hrun hdone
  exact ⟨_, _, _, _, _, _, _, _, hopen, isValid_leapDay, htimely, hhistory, hrun, hdone, rfl, t, hmid.held, rfl⟩

end Bench

end ScriptBench
