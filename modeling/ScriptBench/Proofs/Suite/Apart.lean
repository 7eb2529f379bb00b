import ScriptBench.Proofs.Engine.Steady
import ScriptBench.Proofs.Script.Scripts
import ScriptBench.Proofs.Suite.Run
import ScriptBench.Proofs.Suite.Verdict

/-! Tests of one suite are kept apart. On an interpreter whose reaction depends on the program alone, a test of a whole
run has the result that it has when it is run alone, up to the first one whose program makes the interpreter leave. -/
namespace ScriptBench

/-! Programs one behind the other -/

/-- The outcomes of programs that are run one behind the other. Behind a crash no interpreter is at hand. -/
def outcomesOf (react : String → Reaction) : List String → List Outcome
  | [] => []
  | source :: more =>
    (react source).outcome :: if (react source).crashes then more.map fun _ => .notReady else outcomesOf react more

/-- The programs that an interpreter is asked to run: those up to the first crash. -/
def askedOf (react : String → Reaction) : List String → List String
  | [] => []
  | source :: more => source :: if (react source).crashes then [] else askedOf react more

section

variable {react : String → Reaction} {front later : List String} {source : String}

theorem outcomesOf_of_stay (h : (react source).crashes = false) (later : List String) :
    outcomesOf react (source :: later) = (react source).outcome :: outcomesOf react later := by
  rw [outcomesOf, h]
  rfl

theorem outcomesOf_of_crash (h : (react source).crashes = true) (later : List String) :
    outcomesOf react (source :: later) = (react source).outcome :: later.map fun _ => .notReady := by
  rw [outcomesOf, h]
  rfl

theorem askedOf_of_stay (h : (react source).crashes = false) (later : List String) :
    askedOf react (source :: later) = source :: askedOf react later := by
  rw [askedOf, h]
  rfl

theorem askedOf_of_crash (h : (react source).crashes = true) (later : List String) :
    askedOf react (source :: later) = [source] := by
  rw [askedOf, h]
  rfl

end

namespace Bench

variable {k : Keeping} {options : RunOptions}

/-- Saving tests does not touch the workers. -/
theorem persist_same (s : Suite) (b : Bench) :
    (s.persist (world k options) b).engine.supervisor = b.engine.supervisor ∧
    (s.persist (world k options) b).engine.workers = b.engine.workers := by
  cases k <;> exact ⟨rfl, rfl⟩

end Bench

theorem Engine.Ready.of_same {react : String → Reaction} {old : List Worker} {w : Worker} {e e' : Engine}
    (h : e.Ready react old w) (hsupervisor : e'.supervisor = e.supervisor) (hworkers : e'.workers = e.workers) :
    e'.Ready react old w :=
  ⟨hsupervisor ▸ h.live, hworkers ▸ h.workers, h.steady, h.running, h.idle, h.unread⟩

theorem Engine.received_of_same {e e' : Engine} (h : e'.workers = e.workers) : e'.received = e.received := by
  rw [received, received, h]

theorem Engine.Ran.of_same {react : String → Reaction} {old : List Worker} {w : Worker} {r : Request}
    {e e₁ e₂ : Engine} (h : e.Ran react old w r e₁) (hsupervisor : e₂.supervisor = e₁.supervisor)
    (hworkers : e₂.workers = e₁.workers) : e.Ran react old w r e₂ where
  received := (received_of_same hworkers).trans h.received
  gone hcrash := (congrArg Supervisor.live hsupervisor).trans (h.gone hcrash)
  ready hstays := (h.ready hstays).of_same hsupervisor hworkers

namespace Suite

variable {k : Keeping} {options : RunOptions} {main : String} {react : String → Reaction}

/-- A bench behind the run of one test, with its result saved. -/
def saved (k : Keeping) (options : RunOptions) (s : Suite) (index : Nat) (t : Test) (o : Outcome) (b : Bench)
    (e : Engine) : Bench :=
  (s.replace index (judged t o b.clock)).persist (Bench.world k options) { b with engine := e }

theorem runs_next {s s' : Suite} {b b' : Bench} {index : Nat} {t : Test} {o : Outcome} {e : Engine} {os : List Outcome}
    (ht : s.tests[index]? = some t) (hrun : b.engine.run options (script t main) none = some (o, e))
    (hmore : Runs (Bench.world k options) main (index + 1) (s.replace index (judged t o b.clock))
      (saved k options s index t o b e) os s' b') :
    Runs (Bench.world k options) main index s b (o :: os) s' b' := by
  have hworld : (Bench.world k options).run (script t main) b = some (o, { b with engine := e }) := by
    simp [Bench.world, Bench.run, hrun]
  exact .next ht hworld hmore

theorem drop_replace (s : Suite) (index : Nat) (t : Test) :
    (s.replace index t).tests.drop (index + 1) = s.tests.drop (index + 1) := by
  rw [replace_tests, List.drop_set_of_lt (Nat.lt_succ_self index)]

theorem getElem?_of_drop_eq_cons {tests more : List Test} {index : Nat} {t : Test}
    (h : tests.drop index = t :: more) : tests[index]? = some t ∧ tests.drop (index + 1) = more := by
  constructor
  · have hfirst := congrArg (·[0]?) h
    simpa using hfirst
  · rw [← List.drop_drop, h]
    rfl

/-- Without an interpreter every test has the same outcome, and no request is sent. -/
theorem exists_runs_of_gone {s : Suite} {b : Bench} {index : Nat} (h : b.engine.supervisor.live = none) :
    ∃ s' b', Runs (Bench.world k options) main index s b ((s.tests.drop index).map fun _ => .notReady) s' b' ∧
      b'.engine.supervisor.live = none ∧ b'.engine.received = b.engine.received := by
  generalize htests : s.tests.drop index = tests
  induction tests generalizing s b index with
  | nil => exact ⟨s, b, .done (List.drop_eq_nil_iff.1 htests), h, rfl⟩
  | cons t more ih =>
    obtain ⟨ht, hmore⟩ := getElem?_of_drop_eq_cons htests
    have hrun : b.engine.run options (script t main) none = some (.notReady, b.engine) :=
      Engine.run_eq_some_iff.2 (.inl ⟨h, rfl, rfl⟩)
    have hsame := @Bench.persist_same k options (s.replace index (judged t .notReady b.clock)) b
    obtain ⟨s', b', hruns, hlive, hreceived⟩ := @ih (s.replace index (judged t .notReady b.clock))
      (saved k options s index t .notReady b b.engine) (index + 1) ((congrArg Supervisor.live hsame.1).trans h)
      (by rw [drop_replace, hmore])
    exact ⟨s', b', runs_next ht hrun hruns, hlive, hreceived.trans (Engine.received_of_same hsame.2)⟩

/-- A test that is run on an engine that is ready has the outcome of its own reaction, and saving it leaves the engine
as the call left it. -/
theorem exists_saved_of_ready {b : Bench} {old : List Worker} {w : Worker} (h : b.engine.Ready react old w)
    (hid : w.nextId < UInt64.size) (s : Suite) (index : Nat) (t : Test) :
    ∃ e, b.engine.run options (script t main) none = some ((react (script t main)).outcome, e) ∧
      b.engine.Ran react old w (w.request (script t main) none options.module)
        (saved k options s index t (react (script t main)).outcome b e).engine := by
  obtain ⟨e, hrun, hran⟩ := h.run hid options (script t main) none
  have hsame := @Bench.persist_same k options
    (s.replace index (judged t (react (script t main)).outcome b.clock)) { b with engine := e }
  exact ⟨e, hrun, hran.of_same hsame.1 hsame.2⟩

/-- Tests that are run on an engine that is ready have the outcomes of their own reactions up to the first crash. -/
theorem exists_runs_of_ready {s : Suite} {b : Bench} {index : Nat} {old : List Worker} {w : Worker}
    (h : b.engine.Ready react old w) (hids : w.nextId + (s.tests.drop index).length ≤ UInt64.size) :
    ∃ (s' : Suite) (b' : Bench) (rs : List Request), Runs (Bench.world k options) main index s b
        (outcomesOf react ((s.tests.drop index).map fun t => script t main)) s' b' ∧
      b'.engine.received = b.engine.received ++ rs.map Request.line ∧
      rs.map Request.code = askedOf react ((s.tests.drop index).map fun t => script t main) ∧
      (∀ t ∈ s.tests.drop index, (react (script t main)).crashes = true → b'.engine.supervisor.live = none) := by
  generalize htests : s.tests.drop index = tests at hids
  induction tests generalizing s b index w with
  | nil => exact ⟨s, b, [], .done (List.drop_eq_nil_iff.1 htests), (List.append_nil _).symm, rfl, nofun⟩
  | cons t more ih =>
    obtain ⟨ht, hmore⟩ := getElem?_of_drop_eq_cons htests
    rw [List.length_cons] at hids
    obtain ⟨e, hrun, hran⟩ := @exists_saved_of_ready k options main react b old w h (by omega) s index t
    let o := (react (script t main)).outcome
    have hrest : (s.replace index (judged t o b.clock)).tests.drop (index + 1) = more := by
      rw [drop_replace, hmore]
    cases hcrash : (react (script t main)).crashes with
    | true =>
      -- The tests behind this one find no interpreter.
      obtain ⟨s', b', hruns, hlive, hreceived⟩ := @exists_runs_of_gone k options main
        (s.replace index (judged t o b.clock)) (saved k options s index t o b e) (index + 1) (hran.gone hcrash)
      refine ⟨s', b', [w.request (script t main) none options.module], ?_, ?_, ?_, fun _ _ _ => hlive⟩
      · rw [hrest] at hruns
        rw [List.map_cons, outcomesOf_of_crash hcrash, List.map_map]
        exact runs_next ht hrun hruns
      · exact hreceived.trans hran.received
      · rw [List.map_cons, List.map_cons, askedOf_of_crash hcrash]
        rfl
    | false =>
      -- The engine is ready again, and its next request has the next number.
      obtain ⟨s', b', rs, hruns, hreceived, hcodes, hlive⟩ := @ih (s.replace index (judged t o b.clock))
        (saved k options s index t o b e) (index + 1) _ (hran.ready hcrash) hrest (by
          change w.nextId + 1 + more.length ≤ UInt64.size
          omega)
      refine ⟨s', b', w.request (script t main) none options.module :: rs, ?_, ?_, ?_, ?_⟩
      · rw [List.map_cons, outcomesOf_of_stay hcrash]
        exact runs_next ht hrun hruns
      · rw [hreceived, hran.received, List.append_assoc]
        rfl
      · rw [List.map_cons, List.map_cons, askedOf_of_stay hcrash, hcodes]
        rfl
      · intro u hu hucrash
        rcases List.mem_cons.1 hu with rfl | hu
        · rw [hcrash] at hucrash
          cases hucrash
        · exact hlive u hu hucrash

section

variable {tests : List Test} {index : Nat} {t : Test}

end

end Suite

end ScriptBench
