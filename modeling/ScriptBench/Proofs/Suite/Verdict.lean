import ScriptBench.Bench
import ScriptBench.Proofs.Engine.Queue
import ScriptBench.Proofs.Execution.Exchange
import ScriptBench.Proofs.Json.Record
import ScriptBench.Proofs.Markers.Block
import ScriptBench.Proofs.Suite.Run

/-! What a run records about a test. A test passes or fails just if its script ran without a failure and the
last payload in its output says so in the test's own name; every other run is an error. -/
namespace ScriptBench

open Text

/-- The payload that counts in an output: the one of the last block that can be read. -/
def TestPayload.Last (stdout : String) (p : TestPayload) : Prop :=
  Markers.test.LastRead TestPayload.read stdout p

/-- A run reports a status in the name of a test. -/
def Test.Reports (t : Test) (o : Outcome) (status : Status) : Prop :=
  o.failure? = none ∧ ∃ p, TestPayload.Last o.stdout p ∧ p.name = t.identity ∧ p.status = status

/-- What a test `t'` holds once test `t` was run with an outcome. -/
structure Test.Recorded (t : Test) (o : Outcome) (t' : Test) : Prop where
  passed_iff : t'.status = .passed ↔ t.Reports o .passed
  failed_iff : t'.status = .failed ↔ t.Reports o .failed
  error_iff : t'.status = .error ↔ ¬t.Reports o .passed ∧ ¬t.Reports o .failed
  not_pending : t'.status ≠ .pending
  of_failure : ∀ f, o.failure? = some f → t'.output = f.text
  of_own_payload : ∀ p, o.failure? = none → TestPayload.Last o.stdout p → p.name = t.identity →
    t'.output = p.output
  of_foreign_payload : ∀ p, o.failure? = none → TestPayload.Last o.stdout p → p.name ≠ t.identity →
    t'.output = "Test harness error: "
      ++ (PayloadError.wrongName "test result" t.identity p.name).message
  of_unread_payload : ∀ e, o.failure? = none → Markers.test.LastFault TestPayload.read o.stdout e →
    t'.output = "Test harness error: " ++ (PayloadError.invalidJson "test result" e.message).message
  of_no_block : o.failure? = none →
    (∀ first last, ¬Markers.test.Block (lines o.stdout.toList) first last) →
    t'.output = "Test harness error: " ++ (PayloadError.missingMarkers "test result").message

/-! Payloads -/

theorem TestPayload.slots_keep (slot : Json.Slot TestPayload.Draft) (h : slot ∈ TestPayload.shape.slots) :
    Json.Keeps (fun s => s.status ≠ some .pending) slot.read := by
  simp only [TestPayload.shape, List.mem_cons, List.not_mem_nil, or_false] at h
  rcases h with rfl | rfl | rfl
  · exact Json.Slot.required_keeps fun s _ _ _ hs _ => hs
  · refine Json.Slot.required_keeps fun s _ status _ _ hread => ?_
    have := Json.readVariant_mem hread
    simp only [TestPayload.statuses, List.map_cons, List.map_nil, List.mem_cons, List.not_mem_nil,
      or_false] at this
    rcases this with rfl | rfl | rfl <;> simp
  · exact Json.Slot.optional_keeps fun s _ _ _ hs _ => hs

/-- No payload tells of a test that is still pending. -/
theorem TestPayload.status_ne_pending {text : String} {p : TestPayload} (h : TestPayload.read text = .ok p) :
    p.status ≠ .pending := by
  obtain ⟨rest, hread⟩ := Json.read_of_parse h
  obtain ⟨s, hs, hbuild⟩ :=
    Json.Shape.exists_draft_of_read TestPayload.slots_keep (by simp [TestPayload.shape]) hread
  obtain ⟨name, _, hbuild⟩ := Json.bind_eq_ok.1 hbuild
  obtain ⟨status, hstatus, hbuild⟩ := Json.bind_eq_ok.1 hbuild
  cases hbuild
  rintro rfl
  unfold Json.need at hstatus
  split at hstatus
  · rename_i status' hsome
    cases hstatus
    exact hs hsome
  · cases hstatus

theorem TestPayload.Last.status_ne_pending {stdout : String} {p : TestPayload} (h : TestPayload.Last stdout p) :
    p.status ≠ .pending := by
  obtain ⟨_, _, _, hread, _⟩ := h
  exact TestPayload.status_ne_pending hread

namespace Test

variable {t : Test} {o : Outcome}

theorem verdict_of_failure {f : Failure} (h : o.failure? = some f) : t.verdict o = (.error, f.text) := by
  simp [verdict, h]

theorem verdict_of_own_payload {p : TestPayload} (h : o.failure? = none) (hp : TestPayload.Last o.stdout p)
    (hname : p.name = t.identity) : t.verdict o = (p.status, p.output) := by
  have hdecode := Markers.decode_of_lastRead hp
  simp [verdict, payload, h, hdecode, hname, bind, Except.bind, pure, Except.pure]

theorem verdict_of_foreign_payload {p : TestPayload} (h : o.failure? = none)
    (hp : TestPayload.Last o.stdout p) (hname : p.name ≠ t.identity) :
    t.verdict o = (.error, "Test harness error: "
      ++ (PayloadError.wrongName "test result" t.identity p.name).message) := by
  have hdecode := Markers.decode_of_lastRead hp
  have hconsumer : Markers.test.consumer = "test result" := rfl
  simp [verdict, payload, h, hdecode, hname, hconsumer, bind, Except.bind]

theorem verdict_of_no_payload {e : PayloadError} (h : o.failure? = none)
    (he : Markers.test.decode TestPayload.read o.stdout = .error e) :
    t.verdict o = (.error, "Test harness error: " ++ e.message) := by
  simp [verdict, payload, h, he, bind, Except.bind]

theorem reports_iff_of_payload {p : TestPayload} {status : Status} (h : o.failure? = none)
    (hp : TestPayload.Last o.stdout p) :
    t.Reports o status ↔ p.name = t.identity ∧ p.status = status := by
  constructor
  · rintro ⟨_, q, hq, hname, hstatus⟩
    rw [Markers.LastRead.unique hp hq]
    exact ⟨hname, hstatus⟩
  · rintro ⟨hname, hstatus⟩
    exact ⟨h, p, hp, hname, hstatus⟩

theorem not_reports_of_no_payload {e : PayloadError} {status : Status}
    (he : Markers.test.decode TestPayload.read o.stdout = .error e) : ¬t.Reports o status := by
  rintro ⟨_, p, hp, _⟩
  rw [Markers.decode_of_lastRead hp] at he
  cases he

/-- Each status but the one of errors is recorded just if it is reported. -/
theorem verdict_fst_eq_iff {status : Status} (hs : status ≠ .error) :
    (t.verdict o).1 = status ↔ t.Reports o status := by
  cases hf : o.failure? with
  | some f =>
    rw [verdict_of_failure hf]
    refine ⟨fun h => (hs h.symm).elim, fun h => ?_⟩
    have := h.1
    simp [hf] at this
  | none =>
    cases hdecode : Markers.test.decode TestPayload.read o.stdout with
    | error e =>
      rw [verdict_of_no_payload hf hdecode]
      exact ⟨fun h => (hs h.symm).elim, fun h => (not_reports_of_no_payload hdecode h).elim⟩
    | ok p =>
      have hp : TestPayload.Last o.stdout p := Markers.decode_eq_ok_iff.1 hdecode
      rw [reports_iff_of_payload hf hp]
      by_cases hname : p.name = t.identity
      · simp [verdict_of_own_payload hf hp hname, hname]
      · simp [verdict_of_foreign_payload hf hp hname, hname, hs.symm]

theorem verdict_fst_ne_pending (t : Test) (o : Outcome) : (t.verdict o).1 ≠ .pending := by
  intro h
  obtain ⟨_, p, hp, _, hstatus⟩ := (verdict_fst_eq_iff (by simp)).1 h
  exact hp.status_ne_pending hstatus

/-- What a test holds behind its run is what the outcome says. -/
theorem recorded_judged (t : Test) (o : Outcome) (time : Time.Instant) :
    t.Recorded o (Suite.judged t o time) where
  passed_iff := verdict_fst_eq_iff (by simp)
  failed_iff := verdict_fst_eq_iff (by simp)
  error_iff := by
    have hpassed := @verdict_fst_eq_iff t o .passed (by simp)
    have hfailed := @verdict_fst_eq_iff t o .failed (by simp)
    have hpending := verdict_fst_ne_pending t o
    change (t.verdict o).1 = .error ↔ _
    rw [← hpassed, ← hfailed]
    cases hv : (t.verdict o).1 <;> simp_all
  not_pending := verdict_fst_ne_pending t o
  of_failure f hf := congrArg Prod.snd (verdict_of_failure hf)
  of_own_payload p hf hp hname := congrArg Prod.snd (verdict_of_own_payload hf hp hname)
  of_foreign_payload p hf hp hname := congrArg Prod.snd (verdict_of_foreign_payload hf hp hname)
  of_unread_payload e hf he := congrArg Prod.snd (verdict_of_no_payload hf (Markers.decode_of_lastFault he))
  of_no_block hf hno := congrArg Prod.snd (verdict_of_no_payload hf (Markers.decode_of_no_block hno))

end Test

namespace Suite

/-- A run of one test and each step of a run of all tests end whenever their invocations end, and record what
the outcome of the test's own invocation says. -/
theorem run_records_verdict (k : Keeping) (options : RunOptions) (main : String) (s : Suite) (b : Bench) :
    (∀ source o e, b.engine.run options source none = some (o, e) →
      b.engine.Reported options source none o) ∧
    (∀ id t o e, s.find? id = some t → b.engine.run options (script t main) none = some (o, e) →
      ∃ (index : Nat) (t' : Test) (b' : Bench), s.tests.findIdx? (·.id == id) = some index ∧
        s.tests[index]? = some t ∧
        s.run (Bench.world k options) id main b = some (some t', s.replace index t', b') ∧
        t.Recorded o t') ∧
    (∀ os s' b', Runs (Bench.world k options) main 0 s b os s' b' →
      (∃ summary, s.runAll (Bench.world k options) main b = some (summary, s', b')) ∧
      os.length = s.tests.length ∧ s'.tests.length = s.tests.length ∧
      ∀ (index : Nat) (t : Test) (o : Outcome), s.tests[index]? = some t → os[index]? = some o →
        ∃ t', s'.tests[index]? = some t' ∧ t.Recorded o t') ∧
    (∀ summary s' b', s.runAll (Bench.world k options) main b = some (summary, s', b') →
      ∃ os, Runs (Bench.world k options) main 0 s b os s' b') := by
  refine ⟨fun source o e h => Engine.reported_of_run h, fun id t o e ht hrun => ?_, fun os s' b' h => ?_,
    fun summary s' b' h => ?_⟩
  · obtain ⟨index, hindex, hget⟩ := exists_findIdx?_of_find? ht
    let t' := judged t o b.clock
    let b' := (s.replace index t').persist (Bench.world k options) { b with engine := e }
    refine ⟨index, t', b', hindex, hget, ?_, Test.recorded_judged t o b.clock⟩
    have hworld : (Bench.world k options).run (script t main) b = some (o, { b with engine := e }) := by
      simp [Bench.world, Bench.run, hrun]
    exact run_eq_some_iff.2 ⟨index, t, o, _, hindex, hget, hworld, rfl, rfl, rfl⟩
  · refine ⟨⟨_, runAll_eq_some_iff.2 ⟨os, h, rfl⟩⟩, h.outcomes_length, h.length_eq, fun index t o ht ho => ?_⟩
    obtain ⟨time, hget⟩ := h.getElem?_of_le (Nat.zero_le index) ht ho
    exact ⟨_, hget, Test.recorded_judged t o time⟩
  · obtain ⟨os, h, _⟩ := runAll_eq_some_iff.1 h
    exact ⟨os, h⟩

/-- A test that passes: its script printed the payload with its name, and nothing else went wrong. -/
theorem run_records_verdict_passed :
    ∃ (b : Bench) (s : Suite) (t t' : Test) (s' : Suite) (b' : Bench), s.tests = [t] ∧
      s.run (Bench.world .memory ⟨none, "lib"⟩) t.id "" b = some (some t', s', b') ∧ t'.status = .passed := by
  let payload := "\x7b\"name\":\"test_a\",\"status\":\"PASSED\"\x7d"
  let stdout := Json.literal (Markers.test.wrap payload)
  let p : Process := .printed ("\x7b\"type\":\"result\",\"id\":1,\"ok\":true,\"stdout\":" ++ stdout ++ "\x7d\n")
  let b : Bench := ⟨.around p, .empty, ⟨⟨2024, 5, 17⟩, 600, 0, 0⟩⟩
  let t : Test := .fresh ⟨List.replicate 32 0, rfl⟩ "first" (some "test_a") "def test_a(): pass"
  let s : Suite := ⟨"ana", [t]⟩
  have houtcome : (b.engine.run ⟨none, "lib"⟩ (script t "") none).map (fun r => (t.verdict r.1).1) =
      some .passed := by decide +kernel
  obtain ⟨⟨o, e⟩, hrun, hpassed⟩ := Option.map_eq_some_iff.1 houtcome
  obtain ⟨_, hone, _⟩ := run_records_verdict .memory ⟨none, "lib"⟩ "" s b
  obtain ⟨index, t', b', _, _, hs, hrecorded⟩ := hone t.id t o e (by decide) hrun
  refine ⟨b, s, t, t', _, b', rfl, hs, ?_⟩
  rw [hrecorded.passed_iff, ← @Test.verdict_fst_eq_iff t o .passed (by simp)]
  exact hpassed

end Suite

end ScriptBench
