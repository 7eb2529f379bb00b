import ScriptBench.Suite.Suite

/-! A run of a suite as steps: one invocation for each test, in order, with the tests saved behind each. -/
namespace ScriptBench.Suite

variable {ω : Type} {world : World ω} {main : String}

/-- A suite in which the test at an index is replaced. -/
def replace (s : Suite) (index : Nat) (t : Test) : Suite := { s with tests := s.tests.set index t }

@[simp] theorem replace_tests (s : Suite) (index : Nat) (t : Test) :
    (s.replace index t).tests = s.tests.set index t := rfl

@[simp] theorem replace_owner (s : Suite) (index : Nat) (t : Test) : (s.replace index t).owner = s.owner := rfl

/-- From `index` on every test of a suite is run, with these outcomes, each in the world that the test before
it left after its result was saved. -/
inductive Runs (world : World ω) (main : String) :
    (index : Nat) → Suite → ω → List Outcome → Suite → ω → Prop
  | done {index : Nat} {s : Suite} {w : ω} (h : s.tests.length ≤ index) : Runs world main index s w [] s w
  | next {index : Nat} {s s' : Suite} {w w₁ w' : ω} {t : Test} {o : Outcome} {os : List Outcome}
      (ht : s.tests[index]? = some t) (hrun : world.run (script t main) w = some (o, w₁))
      (hmore : Runs world main (index + 1) (s.replace index (judged t o (world.now w₁)))
        ((s.replace index (judged t o (world.now w₁))).persist world w₁) os s' w') :
      Runs world main index s w (o :: os) s' w'

theorem runAt_eq_some_iff {s s' : Suite} {index : Nat} {t t' : Test} {w w' : ω} :
    s.runAt world index t main w = some (t', s', w') ↔
      ∃ o w₁, world.run (script t main) w = some (o, w₁) ∧ t' = judged t o (world.now w₁) ∧
        s' = s.replace index t' ∧ w' = s'.persist world w₁ := by
  constructor
  · intro h
    obtain ⟨⟨o, w₁⟩, hrun, h⟩ := Option.bind_eq_some_iff.1 h
    cases h
    exact ⟨o, w₁, hrun, rfl, rfl, rfl⟩
  · rintro ⟨o, w₁, hrun, rfl, rfl, rfl⟩
    simp only [runAt, hrun]
    rfl

/-- Counts how tests ended. -/
def count (summary : Summary) (tests : List Test) : Summary :=
  tests.foldl (fun summary t => summary.record t.status) summary

theorem Runs.length_eq {index : Nat} {s s' : Suite} {w w' : ω} {os : List Outcome}
    (h : Runs world main index s w os s' w') : s'.tests.length = s.tests.length := by
  induction h with
  | done => rfl
  | next _ _ _ ih => simpa using ih

theorem Runs.outcomes_length {index : Nat} {s s' : Suite} {w w' : ω} {os : List Outcome}
    (h : Runs world main index s w os s' w') : os.length = s.tests.length - index := by
  induction h with
  | done h => simp only [List.length_nil]; omega
  | next ht _ _ ih =>
    obtain ⟨hlt, _⟩ := List.getElem?_eq_some_iff.1 ht
    simp only [replace_tests, List.length_set] at ih
    simp only [List.length_cons, ih]
    omega

/-- Tests in front of the first one that is run stay as they are. -/
theorem Runs.getElem?_of_lt {index : Nat} {s s' : Suite} {w w' : ω} {os : List Outcome}
    (h : Runs world main index s w os s' w') {i : Nat} (hi : i < index) : s'.tests[i]? = s.tests[i]? := by
  induction h with
  | done => rfl
  | next _ _ _ ih =>
    rw [ih (by omega), replace_tests, List.getElem?_set_ne (by omega)]

/-- Each test ends as its own outcome says. -/
theorem Runs.getElem?_of_le {index : Nat} {s s' : Suite} {w w' : ω} {os : List Outcome}
    (h : Runs world main index s w os s' w') {i : Nat} (hi : index ≤ i) {t : Test} {o : Outcome}
    (ht : s.tests[i]? = some t) (ho : os[i - index]? = some o) :
    ∃ time, s'.tests[i]? = some (judged t o time) := by
  induction h with
  | done => simp at ho
  | @next index s s' w w₁ w' t₁ o₁ os ht₁ hrun hmore ih =>
    rcases Nat.eq_or_lt_of_le hi with rfl | hlt
    · have htt : t₁ = t := by
        rw [ht₁] at ht
        injection ht
      have hoo : o₁ = o := by simpa using ho
      subst htt hoo
      obtain ⟨hlt, _⟩ := List.getElem?_eq_some_iff.1 ht
      refine ⟨world.now w₁, ?_⟩
      rw [hmore.getElem?_of_lt (by omega), replace_tests, List.getElem?_set_self hlt]
    · refine ih (by omega) ?_ ?_
      · rw [replace_tests, List.getElem?_set_ne (by omega), ht]
      · rw [show i - index = (i - (index + 1)) + 1 by omega, List.getElem?_cons_succ] at ho
        exact ho

/-- The test that was run first is counted first. -/
theorem Runs.count_drop {index : Nat} {s s' : Suite} {t : Test} {w w' : ω} {os : List Outcome}
    (hlt : index < s.tests.length) (h : Runs world main (index + 1) (s.replace index t) w os s' w')
    (summary : Summary) :
    count summary (s'.tests.drop index) = count (summary.record t.status) (s'.tests.drop (index + 1)) := by
  have hget : s'.tests[index]? = some t := by
    rw [h.getElem?_of_lt (by omega), replace_tests, List.getElem?_set_self hlt]
  obtain ⟨hlt', hget⟩ := List.getElem?_eq_some_iff.1 hget
  rw [List.drop_eq_getElem_cons hlt', hget]
  rfl

/-- Running so many tests from an index on gives a result whenever every invocation ends. -/
theorem runFrom_eq_some_iff {n index : Nat} {summary summary' : Summary} {s s' : Suite} {w w' : ω}
    (hn : n + index = s.tests.length) :
    runFrom world main n index summary s w = some (summary', s', w') ↔
      ∃ os, Runs world main index s w os s' w' ∧ summary' = count summary (s'.tests.drop index) := by
  induction n generalizing index summary s w with
  | zero =>
    have hdrop : s.tests.drop index = [] := List.drop_eq_nil_of_le (by omega)
    constructor
    · intro h
      cases h
      exact ⟨[], .done (by omega), by simp [hdrop, count]⟩
    · rintro ⟨os, hruns, rfl⟩
      cases hruns with
      | done => simp [runFrom, hdrop, count]
      | next ht =>
        obtain ⟨hlt, _⟩ := List.getElem?_eq_some_iff.1 ht
        omega
  | succ n ih =>
    have hlt : index < s.tests.length := by omega
    have ht : s.tests[index]? = some s.tests[index] := List.getElem?_eq_getElem hlt
    simp only [runFrom, ht]
    constructor
    · intro h
      obtain ⟨⟨t', s₁, w₂⟩, hat, h⟩ := Option.bind_eq_some_iff.1 h
      obtain ⟨o, w₁, hrun, rfl, rfl, rfl⟩ := runAt_eq_some_iff.1 hat
      obtain ⟨os, hruns, rfl⟩ := (ih (by simp; omega)).1 h
      exact ⟨o :: os, .next ht hrun hruns, (hruns.count_drop hlt summary).symm⟩
    · rintro ⟨os, hruns, rfl⟩
      cases hruns with
      | done => omega
      | @next _ _ _ _ w₁ _ t o os ht' hrun hmore =>
        obtain rfl : s.tests[index] = t := by
          rw [ht] at ht'
          injection ht'
        refine Option.bind_eq_some_iff.2 ⟨_, runAt_eq_some_iff.2 ⟨o, w₁, hrun, rfl, rfl, rfl⟩, ?_⟩
        exact (ih (by simp; omega)).2 ⟨os, hmore, hmore.count_drop hlt summary⟩

/-- A run of all tests is one invocation for each test, in order. -/
theorem runAll_eq_some_iff {summary : Summary} {s s' : Suite} {w w' : ω} :
    s.runAll world main w = some (summary, s', w') ↔
      ∃ os, Runs world main 0 s w os s' w' ∧ summary = count .empty s'.tests :=
  runFrom_eq_some_iff rfl

theorem exists_findIdx?_of_find? {s : Suite} {id : Uuid} {t : Test} (h : s.find? id = some t) :
    ∃ index, s.tests.findIdx? (·.id == id) = some index ∧ s.tests[index]? = some t := by
  obtain ⟨hid, index, hlt, rfl, hfirst⟩ := List.find?_eq_some_iff_getElem.1 h
  refine ⟨index, List.findIdx?_eq_some_iff_getElem.2 ⟨hlt, hid, fun j hj => ?_⟩, by simp⟩
  simpa using hfirst j hj

/-- A run of one test is one invocation for the first test with the identifier. -/
theorem run_eq_some_iff {s s' : Suite} {id : Uuid} {t' : Test} {w w' : ω} :
    s.run world id main w = some (some t', s', w') ↔
      ∃ index t o w₁, s.tests.findIdx? (·.id == id) = some index ∧ s.tests[index]? = some t ∧
        world.run (script t main) w = some (o, w₁) ∧ t' = judged t o (world.now w₁) ∧
        s' = s.replace index t' ∧ w' = s'.persist world w₁ := by
  constructor
  · intro h
    unfold run at h
    split at h
    · cases h
    · rename_i index hindex
      split at h
      · cases h
      · rename_i t ht
        obtain ⟨⟨t₁, s₁, w₁⟩, hat, h⟩ := Option.map_eq_some_iff.1 h
        cases h
        obtain ⟨o, w₁, hrun, hjudged, hs, hw⟩ := runAt_eq_some_iff.1 hat
        exact ⟨index, t, o, w₁, hindex, ht, hrun, hjudged, hs, hw⟩
  · rintro ⟨index, t, o, w₁, hindex, ht, hrun, rfl, rfl, rfl⟩
    have hat : s.runAt world index t main w = some _ := runAt_eq_some_iff.2 ⟨o, w₁, hrun, rfl, rfl, rfl⟩
    simp only [run, hindex, ht, hat]
    rfl

end ScriptBench.Suite
