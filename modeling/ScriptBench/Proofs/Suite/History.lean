import ScriptBench.Proofs.Suite.Run

/-! What is done to a suite, one deed behind the other. The tests change as an ordered collection, whatever becomes of
the saves. -/
namespace ScriptBench

theorem rel_bind {α α' β β' : Type} {R : α → α' → Prop} {S : β → β' → Prop} {a : Option α} {a' : Option α'}
    {f : α → Option β} {f' : α' → Option β'} (h : Option.Rel R a a')
    (hf : ∀ x x', R x x' → Option.Rel S (f x) (f' x')) : Option.Rel S (a.bind f) (a'.bind f') := by
  cases h with
  | none => exact .none
  | some h => exact hf _ _ h

theorem rel_map {α α' β β' : Type} {R : α → α' → Prop} {S : β → β' → Prop} {a : Option α} {a' : Option α'}
    {f : α → β} {f' : α' → β'} (h : Option.Rel R a a') (hf : ∀ x x', R x x' → S (f x) (f' x')) :
    Option.Rel S (a.map f) (a'.map f') := by
  cases h with
  | none => exact .none
  | some h => exact .some (hf _ _ h)

/-- A test that was run again. Only its status, its output and the time of its run may be others. -/
def Test.Rerun (t t' : Test) : Prop :=
  t' = { t with status := t'.status, output := t'.output, lastRun? := t'.lastRun? }

theorem Test.Rerun.refl (t : Test) : t.Rerun t := rfl

theorem Test.rerun_judged (t : Test) (o : Outcome) (time : Time.Instant) : t.Rerun (Suite.judged t o time) := rfl

/-- A test that was added and not run yet. -/
structure Test.IsNew (t : Test) (id : Uuid) (source : String) : Prop where
  id : t.id = id
  source : t.source = source
  status : t.status = .pending
  output : t.output = ""
  lastRun? : t.lastRun? = none

/-- Two worlds in which programs run alike at the same times, as long as the states are alike. Saves may end
differently. -/
structure World.Like {ω ω' : Type} (alike : ω → ω' → Prop) (world : World ω) (world' : World ω') : Prop where
  now : ∀ w w', alike w w' → world.now w = world'.now w'
  run : ∀ source w w', alike w w' →
    Option.Rel (fun r r' => r.1 = r'.1 ∧ alike r.2 r'.2) (world.run source w) (world'.run source w')
  save : ∀ owner tests w w', alike w w' →
    alike (world.store.save owner tests w).2 (world'.store.save owner tests w').2

namespace Suite

variable {ω ω' : Type} {world : World ω}

inductive Deed where
  | add (id : Uuid) (source : String) (name? : Option String)
  | remove (id : Uuid)
  | run (id : Uuid) (main : String)
  | runAll (main : String)

/-- Does something to a suite. There is no end if a program that is run has none. -/
def act (world : World ω) (s : Suite) (w : ω) : Deed → Option (Suite × ω)
  | .add id source name? => some (s.add world id source name? w).2
  | .remove id =>
    match s.remove world id w with
    | some (_, s, w) => some (s, w)
    | none => some (s, w)
  | .run id main => (s.run world id main w).map (·.2)
  | .runAll main => (s.runAll world main w).map (·.2)

/-- A suite with other tests. -/
def withTests (s : Suite) (tests : List Test) : Suite := { s with tests := tests }

/-- The identifier that a deed is about, if it is about a test that has to be there. -/
def Deed.target? : Deed → Option Uuid
  | .remove id | .run id _ => some id
  | .add _ _ _ | .runAll _ => none

/-- Whether a deed runs programs. -/
def Deed.runs : Deed → Bool
  | .add _ _ _ | .remove _ => false
  | .run _ _ | .runAll _ => true

/-- How the tests stand behind a deed, by how they stood before. -/
def Deed.Turns (tests tests' : List Test) : Deed → Prop
  | .add id source _ => ∃ t, t.IsNew id source ∧ tests' = tests ++ [t]
  | .remove id =>
    (∃ front t rest, tests = front ++ t :: rest ∧ t.id = id ∧ (∀ u ∈ front, u.id ≠ id) ∧ tests' = front ++ rest) ∨
      (∀ t ∈ tests, t.id ≠ id) ∧ tests' = tests
  | .run id _ =>
    (∃ front t t' rest, tests = front ++ t :: rest ∧ t.id = id ∧ (∀ u ∈ front, u.id ≠ id) ∧ t.Rerun t' ∧
      tests' = front ++ t' :: rest) ∨
      (∀ t ∈ tests, t.id ≠ id) ∧ tests' = tests
  | .runAll _ => tests'.length = tests.length ∧
    ∀ (i : Nat) (t : Test), tests[i]? = some t → ∃ t', tests'[i]? = some t' ∧ t.Rerun t'

variable {s s' : Suite} {w w' : ω} {id : Uuid} {main : String}

/-! What each deed does -/

theorem find?_eq_none_iff : s.find? id = none ↔ ∀ t ∈ s.tests, t.id ≠ id := by
  unfold find?
  rw [List.find?_eq_none]
  simp

/-- The first test with an identifier stands between those in front, which have others, and the rest. -/
theorem exists_split_of_find? {t : Test} (h : s.find? id = some t) :
    t.id = id ∧ ∃ front rest, s.tests = front ++ t :: rest ∧ ∀ u ∈ front, u.id ≠ id := by
  obtain ⟨hid, front, rest, hsplit, hfront⟩ := List.find?_eq_some_iff_append.1 h
  refine ⟨beq_iff_eq.1 hid, front, rest, hsplit, fun u hu => ?_⟩
  have hne := hfront u hu
  simpa using hne

theorem remove_of_none (h : s.find? id = none) : s.remove world id w = none := by
  unfold remove
  rw [h]
  rfl

theorem remove_of_some {t : Test} (h : s.find? id = some t) :
    s.remove world id w = some (t, s.withTests (s.tests.eraseP (·.id == id)),
      (s.withTests (s.tests.eraseP (·.id == id))).persist world w) := by
  unfold remove
  rw [h]
  rfl

theorem run_of_none (h : s.find? id = none) : s.run world id main w = some (none, s, w) := by
  have hindex : s.tests.findIdx? (·.id == id) = none := by
    rw [List.findIdx?_eq_none_iff]
    intro t ht
    exact beq_eq_false_iff_ne.2 (find?_eq_none_iff.1 h t ht)
  unfold run
  rw [hindex]

theorem run_of_some {t : Test} (h : s.find? id = some t) :
    ∃ index, s.tests.findIdx? (·.id == id) = some index ∧ s.tests[index]? = some t ∧
      s.run world id main w = (s.runAt world index t main w).map fun r => (some r.1, r.2) := by
  obtain ⟨index, hindex, hget⟩ := exists_findIdx?_of_find? h
  refine ⟨index, hindex, hget, ?_⟩
  unfold run
  rw [hindex]
  simp only
  rw [hget]

/-- What is done about a test that is not there changes nothing, and saves nothing either. -/
theorem act_of_absent {deed : Deed} (htarget : deed.target? = some id) (habsent : ∀ t ∈ s.tests, t.id ≠ id) :
    s.act world w deed = some (s, w) := by
  have hnone := find?_eq_none_iff.2 habsent
  cases deed with
  | add | runAll => cases htarget
  | remove =>
    cases htarget
    unfold act
    dsimp only
    rw [remove_of_none hnone]
  | run =>
    cases htarget
    unfold act
    dsimp only
    rw [run_of_none hnone]
    rfl

/-- What runs no program has an end. -/
theorem isSome_act {deed : Deed} (h : deed.runs = false) : (s.act world w deed).isSome = true := by
  cases deed with
  | add => rfl
  | remove id =>
    unfold act
    dsimp only
    cases s.remove world id w <;> rfl
  | run | runAll => cases h

/-- What a deed does. Every change is saved behind it. -/
inductive Done (world : World ω) (s : Suite) (w : ω) : Deed → Suite → ω → Prop where
  | added (id : Uuid) (source : String) (name? : Option String) :
    Done world s w (.add id source name?) (s.withTests (s.tests ++ [s.newTest id source name?]))
      ((s.withTests (s.tests ++ [s.newTest id source name?])).persist world w)
  | absent (deed : Deed) (id : Uuid) (target : deed.target? = some id) (absent : s.find? id = none) :
    Done world s w deed s w
  | removed (id : Uuid) (t : Test) (found : s.find? id = some t) :
    Done world s w (.remove id) (s.withTests (s.tests.eraseP (·.id == id)))
      ((s.withTests (s.tests.eraseP (·.id == id))).persist world w)
  | ran (id : Uuid) (main : String) (index : Nat) (t : Test) (o : Outcome) (w₁ : ω) (found : s.find? id = some t)
    (first : s.tests.findIdx? (·.id == id) = some index) (get : s.tests[index]? = some t)
    (run : world.run (script t main) w = some (o, w₁)) :
    Done world s w (.run id main) (s.replace index (judged t o (world.now w₁)))
      ((s.replace index (judged t o (world.now w₁))).persist world w₁)
  | ranAll (main : String) (os : List Outcome) (s' : Suite) (w' : ω) (runs : Runs world main 0 s w os s' w') :
    Done world s w (.runAll main) s' w'

theorem done_of_act {deed : Deed} (h : s.act world w deed = some (s', w')) : Done world s w deed s' w' := by
  cases deed with
  | add id source name? =>
    cases h
    exact .added id source name?
  | remove id =>
    unfold act at h
    dsimp only at h
    cases hfind : s.find? id with
    | none =>
      rw [remove_of_none hfind] at h
      cases h
      exact .absent _ id rfl hfind
    | some t =>
      rw [remove_of_some hfind] at h
      cases h
      exact .removed id t hfind
  | run id main =>
    unfold act at h
    dsimp only at h
    cases hfind : s.find? id with
    | none =>
      rw [run_of_none hfind] at h
      cases h
      exact .absent _ id rfl hfind
    | some t =>
      obtain ⟨index, hindex, hget, hrun⟩ := @run_of_some ω world s w id main t hfind
      rw [hrun] at h
      obtain ⟨r, hr, h⟩ := Option.map_eq_some_iff.1 h
      obtain ⟨⟨t', s₁, w₂⟩, hat, hr⟩ := Option.map_eq_some_iff.1 hr
      cases hr
      cases h
      obtain ⟨o, w₁, hprogram, rfl, rfl, rfl⟩ := runAt_eq_some_iff.1 hat
      exact .ran id main index t o w₁ hfind hindex hget hprogram
  | runAll main =>
    obtain ⟨⟨summary, s₁, w₁⟩, hall, h⟩ := Option.map_eq_some_iff.1 h
    cases h
    obtain ⟨os, hruns, _⟩ := runAll_eq_some_iff.1 hall
    exact .ranAll main os _ _ hruns

theorem eraseP_split {front rest : List Test} {t : Test} (ht : t.id = id) (hfront : ∀ u ∈ front, u.id ≠ id) :
    (front ++ t :: rest).eraseP (·.id == id) = front ++ rest := by
  have hnone : ∀ u ∈ front, ¬(u.id == id) = true := by
    intro u hu
    simpa using hfront u hu
  rw [List.eraseP_append_right _ hnone, List.eraseP_cons_of_pos (by simp [ht])]

/-- A test at an index stands between those in front of it and the rest. -/
theorem set_split {index : Nat} {t : Test} (h : s.tests[index]? = some t) (t' : Test) :
    ∃ front rest, s.tests = front ++ t :: rest ∧ front.length = index ∧
      s.tests.set index t' = front ++ t' :: rest := by
  obtain ⟨hlt, hget⟩ := List.getElem?_eq_some_iff.1 h
  refine ⟨s.tests.take index, s.tests.drop (index + 1), ?_, List.length_take_of_le (Nat.le_of_lt hlt), ?_⟩
  · rw [← hget, ← List.drop_eq_getElem_cons hlt, List.take_append_drop]
  · exact List.set_eq_take_append_cons_drop.trans (if_pos hlt)

/-- Behind runs from an index on each test is one that was run again, or the same. -/
theorem Runs.rerun {index : Nat} {os : List Outcome} (h : Runs world main index s w os s' w') :
    ∀ (i : Nat) (t : Test), s.tests[i]? = some t → ∃ t', s'.tests[i]? = some t' ∧ t.Rerun t' := by
  induction h with
  | done =>
    intro i t ht
    exact ⟨t, ht, .refl t⟩
  | @next index s s' w w₁ w' t₁ o os ht₁ hrun hmore ih =>
    intro i t ht
    by_cases hi : index = i
    · subst hi
      have htt : t₁ = t := by
        rw [ht₁] at ht
        injection ht
      subst htt
      have hset : (s.replace index (judged t₁ o (world.now w₁))).tests[index]? = some (judged t₁ o (world.now w₁)) :=
        List.getElem?_set_self (List.getElem?_eq_some_iff.1 ht₁).1
      obtain ⟨t', ht', hrerun⟩ := ih index _ hset
      refine ⟨t', ht', ?_⟩
      rw [Test.Rerun] at hrerun ⊢
      rw [hrerun]
      rfl
    · have hset : (s.replace index (judged t₁ o (world.now w₁))).tests[i]? = some t := by
        rw [replace_tests, List.getElem?_set_ne hi]
        exact ht
      exact ih i t hset

theorem Runs.owner_eq {index : Nat} {os : List Outcome} (h : Runs world main index s w os s' w') :
    s'.owner = s.owner := by
  induction h with
  | done => rfl
  | next _ _ _ ih => exact ih

/-- The tests change as an ordered collection. -/
theorem Done.turns {deed : Deed} (h : Done world s w deed s' w') :
    s'.owner = s.owner ∧ deed.Turns s.tests s'.tests := by
  cases h with
  | added id source name? => exact ⟨rfl, s.newTest id source name?, ⟨rfl, rfl, rfl, rfl, rfl⟩, rfl⟩
  | absent _ id htarget habsent =>
    have hno := find?_eq_none_iff.1 habsent
    refine ⟨rfl, ?_⟩
    cases deed with
    | add | runAll => cases htarget
    | remove | run =>
      cases htarget
      exact .inr ⟨hno, rfl⟩
  | removed id t hfind =>
    obtain ⟨ht, front, rest, hsplit, hfront⟩ := exists_split_of_find? hfind
    refine ⟨rfl, .inl ⟨front, t, rest, hsplit, ht, hfront, ?_⟩⟩
    change s.tests.eraseP _ = _
    rw [hsplit, eraseP_split ht hfront]
  | ran id main index t o w₁ hfind hindex hget hrun =>
    obtain ⟨front, rest, hsplit, hlength, hset⟩ := set_split hget (judged t o (world.now w₁))
    refine ⟨rfl, .inl ⟨front, t, _, rest, hsplit, ?_, fun u hu => ?_, t.rerun_judged o _, hset⟩⟩
    · exact (exists_split_of_find? hfind).1
    · obtain ⟨j, hj, hu⟩ := List.getElem_of_mem hu
      have hget' : s.tests[j]? = some u := by
        rw [hsplit, List.getElem?_append_left hj]
        exact List.getElem?_eq_some_iff.2 ⟨hj, hu⟩
      obtain ⟨_, hget'⟩ := List.getElem?_eq_some_iff.1 hget'
      obtain ⟨_, _, hfirst⟩ := List.findIdx?_eq_some_iff_getElem.1 hindex
      have hne := hfirst j (by omega)
      rw [hget'] at hne
      simpa using hne
  | ranAll main os s' w' hruns => exact ⟨hruns.owner_eq, hruns.length_eq, hruns.rerun⟩

/-! Worlds that are alike -/

/-- Results that differ at most in their states, which are alike. -/
def Agree {α : Type} (alike : ω → ω' → Prop) (r : α × Suite × ω) (r' : α × Suite × ω') : Prop :=
  r.1 = r'.1 ∧ r.2.1 = r'.2.1 ∧ alike r.2.2 r'.2.2

section

variable {world' : World ω'} {alike : ω → ω' → Prop} {v : ω'}

theorem runAt_like (h : World.Like alike world world') (hw : alike w v) (index : Nat) (t : Test) :
    Option.Rel (Agree alike) (s.runAt world index t main w) (s.runAt world' index t main v) := by
  refine rel_bind (h.run (script t main) w v hw) ?_
  rintro ⟨o, w₁⟩ ⟨_, v₁⟩ ⟨rfl, hv⟩
  refine .some ?_
  dsimp only
  rw [h.now w₁ v₁ hv]
  exact ⟨rfl, rfl, h.save _ _ w₁ v₁ hv⟩

theorem runFrom_like (h : World.Like alike world world') (hw : alike w v) (count index : Nat) (summary : Summary) :
    Option.Rel (Agree alike) (runFrom world main count index summary s w)
      (runFrom world' main count index summary s v) := by
  induction count generalizing index summary s w v with
  | zero => exact .some ⟨rfl, rfl, hw⟩
  | succ count ih =>
    unfold runFrom
    cases hget : s.tests[index]? with
    | none => exact .some ⟨rfl, rfl, hw⟩
    | some t =>
      refine rel_bind (runAt_like h hw index t) ?_
      rintro ⟨t₁, s₁, w₁⟩ ⟨_, _, v₁⟩ ⟨rfl, rfl, hv⟩
      exact ih hv (index + 1) (summary.record t₁.status)

theorem act_like (h : World.Like alike world world') (hw : alike w v) (deed : Deed) :
    Option.Rel (fun r r' => r.1 = r'.1 ∧ alike r.2 r'.2) (s.act world w deed) (s.act world' v deed) := by
  cases deed with
  | add id source name? => exact .some ⟨rfl, h.save _ _ w v hw⟩
  | remove id =>
    unfold act
    dsimp only
    cases hfind : s.find? id with
    | none =>
      rw [remove_of_none hfind, remove_of_none hfind]
      exact .some ⟨rfl, hw⟩
    | some t =>
      rw [remove_of_some hfind, remove_of_some hfind]
      exact .some ⟨rfl, h.save _ _ w v hw⟩
  | run id main =>
    refine rel_map (R := Agree alike) ?_ fun _ _ => And.right
    cases hfind : s.find? id with
    | none =>
      rw [run_of_none hfind, run_of_none hfind]
      exact .some ⟨rfl, rfl, hw⟩
    | some t =>
      obtain ⟨index, hindex, hget, hrun⟩ := @run_of_some ω world s w id main t hfind
      obtain ⟨index', hindex', _, hrun'⟩ := @run_of_some ω' world' s v id main t hfind
      rw [hindex] at hindex'
      cases hindex'
      rw [hrun, hrun']
      exact rel_map (runAt_like h hw index t) fun _ _ hrr => ⟨congrArg some hrr.1, hrr.2⟩
  | runAll main => exact rel_map (runFrom_like h hw s.tests.length 0 .empty) fun _ _ => And.right

end

end Suite

/-! Watching the saves -/

/-- The tests that somebody tried to save, and whether the save was done. -/
structure Attempt where
  tests : List Test
  done : Bool

/-- The tests that were saved last, by the attempts with the last one in front. -/
def lastDone? (log : List Attempt) : Option (List Test) := (log.find? (·.done)).map (·.tests)

/-- A world in which each attempt to save is noted. -/
def World.watched {ω : Type} (world : World ω) : World (List Attempt × ω) where
  store :=
    { load := fun owner p => world.store.load owner p.2
      save := fun owner tests p =>
        let (r, w) := world.store.save owner tests p.2
        (r, (⟨tests, r.isOk⟩ :: p.1, w)) }
  run source p := (world.run source p.2).map fun (o, w) => (o, (p.1, w))
  now p := world.now p.2

theorem World.like_watched {ω : Type} (world : World ω) :
    World.Like (fun (p : List Attempt × ω) w => p.2 = w) world.watched world := by
  refine ⟨?_, ?_, ?_⟩
  · rintro p w rfl
    rfl
  · rintro source p w rfl
    change Option.Rel _ ((world.run source p.2).map _) (world.run source p.2)
    cases world.run source p.2 with
    | none => exact .none
    | some r => exact .some ⟨rfl, rfl⟩
  · rintro owner tests p w rfl
    rfl

theorem Suite.persist_watched {ω : Type} {world : World ω} {s : Suite} {r : Except StoreError Unit} {w w' : ω}
    (h : world.store.save s.owner s.tests w = (r, w')) (log : List Attempt) :
    s.persist world.watched (log, w) = (⟨s.tests, r.isOk⟩ :: log, w') := by
  change ((⟨s.tests, (world.store.save s.owner s.tests w).1.isOk⟩ :: log, (world.store.save s.owner s.tests w).2) :
    List Attempt × ω) = _
  rw [h]

/-- Notes of attempts to save the same tests, beside states that are alike. -/
def Noted {ω ω' : Type} (alike : ω → ω' → Prop) (p : List Attempt × ω) (p' : List Attempt × ω') : Prop :=
  p.1.map (·.tests) = p'.1.map (·.tests) ∧ alike p.2 p'.2

/-- Worlds that are alike are so when they are watched. The same is saved in both, whatever becomes of it. -/
theorem World.Like.watched {ω ω' : Type} {alike : ω → ω' → Prop} {world : World ω} {world' : World ω'}
    (h : World.Like alike world world') : World.Like (Noted alike) world.watched world'.watched := by
  refine ⟨fun p p' hp => h.now p.2 p'.2 hp.2, fun source p p' hp => ?_, fun owner tests p p' hp => ?_⟩
  · exact rel_map (h.run source p.2 p'.2 hp.2) fun _ _ hrr => ⟨hrr.1, hp.1, hrr.2⟩
  · exact ⟨congrArg (tests :: ·) hp.1, h.save owner tests p.2 p'.2 hp.2⟩

/-- Watching the saves changes nothing else. -/
theorem Suite.act_watched {ω : Type} (world : World ω) (s : Suite) (log : List Attempt) (w : ω) (deed : Deed) :
    (s.act world.watched (log, w) deed).map (fun r => (r.1, r.2.2)) = s.act world w deed := by
  have hlike := @act_like _ ω world.watched s (log, w) world _ w world.like_watched rfl deed
  revert hlike
  generalize s.act world.watched (log, w) deed = r
  generalize s.act world w deed = r'
  intro hlike
  cases hlike with
  | none => rfl
  | some h => exact congrArg some (Prod.ext h.1 h.2)

end ScriptBench
