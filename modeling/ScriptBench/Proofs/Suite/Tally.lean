import ScriptBench.Program
import ScriptBench.Proofs.CommandLine.Reading
import ScriptBench.Proofs.Engine.DriverFile
import ScriptBench.Proofs.Suite.Apart
import ScriptBench.Proofs.Suite.Reopened

/-! What a run of tests tells at its end: the counters of its summary are the numbers of tests that ended in each way,
and the program succeeds just if the tests that it ran have passed. -/
namespace ScriptBench

/-! Counters -/

namespace Summary

/-- How many tests were counted under a status. None is counted that is pending. -/
def counted (s : Summary) : Status → Nat
  | .pending => 0
  | .passed => s.passed
  | .failed => s.failed
  | .error => s.errored

/-- A summary tells of tests that all were run, and tells the truth. -/
structure TellsOf (summary : Summary) (tests : List Test) : Prop where
  not_pending : ∀ t ∈ tests, t.status ≠ .pending
  dated : ∀ t ∈ tests, t.lastRun?.isSome = true
  passed : summary.passed = tests.countP (·.status = .passed)
  failed : summary.failed = tests.countP (·.status = .failed)
  errored : summary.errored = tests.countP (·.status = .error)
  total : summary.total = tests.length
  allPassed_iff : summary.allPassed = true ↔ ∀ t ∈ tests, t.status = .passed

variable {summary : Summary} {tests : List Test} {status : Status}

theorem counted_record (summary : Summary) {status : Status} (h : status ≠ .pending) (told : Status) :
    (summary.record told).counted status = summary.counted status + if told = status then 1 else 0 := by
  cases status with
  | pending => exact absurd rfl h
  | passed => cases told <;> rfl
  | failed => cases told <;> rfl
  | error => cases told <;> rfl

theorem total_record (summary : Summary) {told : Status} (h : told ≠ .pending) :
    (summary.record told).total = summary.total + 1 := by
  cases told with
  | pending => exact absurd rfl h
  | passed => simp only [record, total]; omega
  | failed => simp only [record, total]; omega
  | error => simp only [record, total]; omega

end Summary

namespace Suite

variable {ω : Type} {world : World ω} {main : String} {tests : List Test}

theorem counted_count (summary : Summary) (tests : List Test) {status : Status} (h : status ≠ .pending) :
    (count summary tests).counted status = summary.counted status + tests.countP (·.status = status) := by
  induction tests generalizing summary with
  | nil => rfl
  | cons t tests ih =>
    have hmore := ih (summary.record t.status)
    rw [Summary.counted_record summary h] at hmore
    rw [List.countP_cons, count, List.foldl_cons, ← count, hmore]
    simp only [decide_eq_true_eq]
    omega

theorem total_count (summary : Summary) (h : ∀ t ∈ tests, t.status ≠ .pending) :
    (count summary tests).total = summary.total + tests.length := by
  induction tests generalizing summary with
  | nil => rfl
  | cons t tests ih =>
    have hmore := ih (summary.record t.status) fun u hu => h u (by simp [hu])
    rw [Summary.total_record summary (h t (by simp))] at hmore
    rw [count, List.foldl_cons, ← count, hmore, List.length_cons]
    omega

theorem tellsOf_count (hstatus : ∀ t ∈ tests, t.status ≠ .pending) (hdated : ∀ t ∈ tests, t.lastRun?.isSome = true) :
    (count .empty tests).TellsOf tests := by
  have hcounted (status : Status) (h : status ≠ .pending) :
      (count .empty tests).counted status = tests.countP (·.status = status) := by
    rw [counted_count .empty tests h]
    cases status <;> simp [Summary.counted, Summary.empty]
  have hfailed := hcounted .failed nofun
  have herrored := hcounted .error nofun
  refine ⟨hstatus, hdated, hcounted .passed nofun, hfailed, herrored, ?_, ?_⟩
  · rw [total_count .empty hstatus]
    exact Nat.zero_add _
  · have hboth : (count .empty tests).allPassed = true ↔
        tests.countP (·.status = .failed) = 0 ∧ tests.countP (·.status = .error) = 0 := by
      rw [← hfailed, ← herrored, Summary.allPassed, Bool.and_eq_true, beq_iff_eq, beq_iff_eq]
      rfl
    rw [hboth, List.countP_eq_zero, List.countP_eq_zero]
    constructor
    · rintro ⟨hnot, hnot'⟩ t ht
      cases hs : t.status with
      | pending => exact absurd hs (hstatus t ht)
      | passed => rfl
      | failed => exact absurd (decide_eq_true hs) (hnot t ht)
      | error => exact absurd (decide_eq_true hs) (hnot' t ht)
    · intro hall
      constructor
      · intro t ht
        simp [hall t ht]
      · intro t ht
        simp [hall t ht]

theorem status_judged (t : Test) (o : Outcome) (time : Time.Instant) : (judged t o time).status = (t.verdict o).1 := rfl

/-- Behind a run of all tests each one is judged. -/
theorem Runs.exists_judged {s s' : Suite} {w w' : ω} {os : List Outcome} (h : Runs world main 0 s w os s' w') {t' : Test}
    (ht' : t' ∈ s'.tests) : ∃ t o time, t ∈ s.tests ∧ t' = judged t o time := by
  obtain ⟨index, hlt, rfl⟩ := List.mem_iff_getElem.1 ht'
  have hlength := h.outcomes_length
  have hlt' : index < s.tests.length := by
    rw [← h.length_eq]
    exact hlt
  have ho : os[index - 0]? = some os[index] := List.getElem?_eq_getElem (by omega)
  obtain ⟨time, hget⟩ := h.getElem?_of_le (Nat.zero_le index) (List.getElem?_eq_getElem hlt') ho
  rw [List.getElem?_eq_getElem hlt, Option.some_inj] at hget
  exact ⟨_, _, time, List.getElem_mem hlt', hget⟩

/-- The summary of a run of all tests tells of the tests as they are behind it. -/
theorem tellsOf_of_runAll {s s' : Suite} {summary : Summary} {w w' : ω}
    (h : s.runAll world main w = some (summary, s', w')) : summary.TellsOf s'.tests := by
  obtain ⟨os, hruns, rfl⟩ := runAll_eq_some_iff.1 h
  refine tellsOf_count (fun t' ht' => ?_) fun t' ht' => ?_
  · obtain ⟨t, o, time, -, rfl⟩ := hruns.exists_judged ht'
    rw [status_judged]
    exact Test.verdict_fst_ne_pending t o
  · obtain ⟨t, o, time, -, rfl⟩ := hruns.exists_judged ht'
    rfl

/-- A run of one test judges the first one with the identifier. -/
theorem run_of_find? {s : Suite} {id : Uuid} {t : Test} {r : Option Test × Suite × ω} {w : ω} (h : s.find? id = some t)
    (hrun : s.run world id main w = some r) :
    ∃ index o time, s.tests[index]? = some t ∧ r.1 = some (judged t o time) ∧
      r.2.1 = s.replace index (judged t o time) := by
  obtain ⟨index, hindex, ht⟩ := exists_findIdx?_of_find? h
  rw [run, hindex] at hrun
  dsimp only at hrun
  rw [ht] at hrun
  obtain ⟨⟨t', s', w'⟩, hat, rfl⟩ := Option.map_eq_some_iff.1 hrun
  obtain ⟨o, w₁, -, rfl, rfl, -⟩ := runAt_eq_some_iff.1 hat
  exact ⟨index, o, world.now w₁, ht, rfl, rfl⟩

end Suite

/-! The program -/

open CommandLine (Invocation)

section

variable {α β : Type} {d d' : Desk}

theorem Act.run_bind_of_ok {x : Act α} {a : α} (h : x.run.run d = some (.ok a, d')) (f : α → Act β) :
    (x >>= f).run.run d = (f a).run.run d' := by
  simp [ExceptT.run_bind, StateT.run_bind, h]

theorem Act.run_onBench_bind (f : Bench → Option (α × Bench)) (g : α → Act β) (d : Desk) :
    (onBench f >>= g).run.run d = (f d.bench).bind fun p => (g p.1).run.run { d with bench := p.2 } := by
  have hrun : (onBench f).run.run d = (f d.bench).map fun p => (.ok p.1, { d with bench := p.2 }) := rfl
  rw [ExceptT.run_bind, StateT.run_bind, hrun]
  cases f d.bench with
  | none => rfl
  | some p => rfl

/-- How a call ends with the result of its command. -/
def Ended.ofResult : Except ProgramError Result → Ended
  | .ok (success, printed) => .done (exitCodeOf success) printed
  | .error e => .failed e

theorem run_testCommand {colour : Bool} {s : Settings} {folder : Folder} {newId : Uuid} {owner file : String}
    {only : Option Uuid} {timeoutMs : Option Nat} {suite : Suite}
    (h : Suite.load (Bench.world (.files folder) (optionsFor s timeoutMs)) owner d.bench = .ok suite) :
    (testCommand colour s folder newId owner (.run file only timeoutMs)).run.run d =
      (runTests colour (Bench.world (.files folder) (optionsFor s timeoutMs)) suite file only).run.run d := by
  have hget : (get : Act Desk).run.run d = some (.ok d, d) := rfl
  unfold testCommand
  rw [Act.run_bind_of_ok hget]
  simp only [h]

end

namespace Call

/-- The desk at the start of a call. -/
def desk (call : Call) (m : Machine) : Desk :=
  ⟨⟨Engine.initial ((call.settings m).1.engine (call.settings m).2) m, .empty, call.clock⟩, call.input⟩

/-- The world of the tests of a call. -/
def testWorld (call : Call) (m : Machine) (timeoutMs : Option Nat) : World Bench :=
  Bench.world (.files ⟨m.path ((call.settings m).1.storeDirectory (call.settings m).2)⟩)
    (optionsFor (call.settings m).1 timeoutMs)

/-- A call has come to its tests, all or only one: it has loaded them and read the main file, and the engine has
started. -/
inductive Underway (call : Call) (m : Machine) (only : Option Uuid) : World Bench → Suite → String → Bench → Prop
  | intro {i : Invocation} {owner? : Option String} {file main : String} {timeoutMs : Option Nat} {suite : Suite}
      {d d' : Desk} (harguments : Invocation.read call.arguments = .ok i)
      (hcommand : i.command = .test owner? (.run file only timeoutMs))
      (hload : Suite.load (call.testWorld m timeoutMs) (owner?.getD (call.settings m).1.owner) (call.desk m).bench =
        .ok suite)
      (hsource : (readSource file).run.run (call.desk m) = some (.ok main, d))
      (hstart : startEngine.run.run d = some (.ok (), d')) :
      Underway call m only (call.testWorld m timeoutMs) suite main d'.bench

variable {call : Call} {m : Machine} {only : Option Uuid} {world : World Bench} {suite : Suite} {main : String}
  {b : Bench}

theorem run_of_read {i : Invocation} (h : Invocation.read call.arguments = .ok i) :
    call.run m =
      ((command call (call.settings m).1 (call.settings m).2 i.command).run.run (call.desk m)).map fun (result, desk) =>
        (.ofResult result, desk.bench.engine.shutdown) := by
  unfold Call.run
  rw [h]
  change Option.bind ((command call (call.settings m).1 (call.settings m).2 i.command).run.run (call.desk m)) _ = _
  cases (command call (call.settings m).1 (call.settings m).2 i.command).run.run (call.desk m) with
  | none => rfl
  | some p => rfl

theorem run_of_underway (h : call.Underway m only world suite main b) :
    ∃ file d d', (readSource file).run.run (call.desk m) = some (.ok main, d) ∧
      startEngine.run.run d = some (.ok (), d') ∧ d'.bench = b ∧
      call.run m = ((runTests call.colour world suite file only).run.run (call.desk m)).map fun (result, desk) =>
        (.ofResult result, desk.bench.engine.shutdown) := by
  obtain @⟨i, owner?, file, main, timeoutMs, suite, d, d', harguments, hcommand, hload, hsource, hstart⟩ := h
  have hget : (get : Act Desk).run.run (call.desk m) = some (.ok (call.desk m), call.desk m) := rfl
  refine ⟨file, d, d', hsource, hstart, rfl, ?_⟩
  rw [run_of_read harguments, hcommand, command, Act.run_bind_of_ok hget]
  exact congrArg (Option.map _) (run_testCommand hload)

/-- A call that runs all tests ends if they end, and tells what their summary says. -/
theorem run_all_of_underway (h : call.Underway m none world suite main b) :
    ∃ report : Summary → Suite → String, call.run m = (suite.runAll world main b).map fun (summary, suite, b) =>
      (.done (exitCodeOf summary.allPassed) (report summary suite), b.engine.shutdown) := by
  obtain ⟨file, d, d', hsource, hstart, rfl, hrun⟩ := run_of_underway h
  refine ⟨fun summary suite =>
    String.join (suite.tests.map (Report.test call.colour)) ++ Report.summary call.colour summary, ?_⟩
  rw [hrun, runTests, Act.run_bind_of_ok hsource, Act.run_bind_of_ok hstart, Act.run_onBench_bind]
  cases suite.runAll world main d'.bench with
  | none => rfl
  | some p => rfl

/-- A call that runs one test ends if it ends, and tells its status. -/
theorem run_only_of_underway {id : Uuid} (h : call.Underway m (some id) world suite main b) :
    call.run m = (suite.run world id main b).map fun (t?, _, b) =>
      (t?.elim (.failed (.noSuchTest id)) fun t => .done (exitCodeOf (t.status == .passed)) (Report.test call.colour t),
        b.engine.shutdown) := by
  obtain ⟨file, d, d', hsource, hstart, rfl, hrun⟩ := run_of_underway h
  rw [hrun, runTests, Act.run_bind_of_ok hsource, Act.run_bind_of_ok hstart, Act.run_onBench_bind]
  cases suite.run world id main d'.bench with
  | none => rfl
  | some p =>
    obtain ⟨t?, s, b⟩ := p
    cases t? with
    | none => rfl
    | some t => rfl

theorem exitCode_done_iff {success : Bool} {printed : String} :
    (Ended.done (exitCodeOf success) printed).exitCode = 0 ↔ success = true := by
  cases success <;> simp [Ended.exitCode, exitCodeOf]

end Call

/-- In every world, behind a run of all tests none is pending, each has the time of its last run, and the summary counts
how many have passed, have failed and are errors. So a call that has come to its tests ends if they end, and with
success just if all of them have passed; and a call for one of them, just if that one has passed, and no other one is
changed. -/
theorem success_iff_passed :
    (∀ {ω : Type} (world : World ω) (s : Suite) (main : String) (w : ω) (summary : Summary) (s' : Suite) (w' : ω),
      s.runAll world main w = some (summary, s', w') →
        summary.TellsOf s'.tests ∧ s'.tests.length = s.tests.length) ∧
    (∀ (call : Call) (m : Machine) (world : World Bench) (s : Suite) (main : String) (b : Bench),
      call.Underway m none world s main b →
        ((call.run m).isSome ↔ (s.runAll world main b).isSome) ∧
        ∀ (summary : Summary) (s' : Suite) (b' : Bench), s.runAll world main b = some (summary, s', b') →
          ∃ ended, call.run m = some (ended, b'.engine.shutdown) ∧
            (ended.exitCode = 0 ↔ ∀ t ∈ s'.tests, t.status = .passed)) ∧
    ∀ (call : Call) (m : Machine) (id : Uuid) (world : World Bench) (s : Suite) (main : String) (b : Bench) (t : Test),
      call.Underway m (some id) world s main b → s.find? id = some t →
        ((call.run m).isSome ↔ (s.run world id main b).isSome) ∧
        ∀ (t? : Option Test) (s' : Suite) (b' : Bench), s.run world id main b = some (t?, s', b') →
          ∃ (index : Nat) (t' : Test) (ended : Ended), s.tests[index]? = some t ∧ s'.tests[index]? = some t' ∧
            t? = some t' ∧ call.run m = some (ended, b'.engine.shutdown) ∧
            (ended.exitCode = 0 ↔ t'.status = .passed) ∧
            ∀ other, other ≠ index → s'.tests[other]? = s.tests[other]? := by
  refine ⟨fun world s main w summary s' w' h => ?_, fun call m world s main b h => ?_,
    fun call m id world s main b t h ht => ?_⟩
  · obtain ⟨os, hruns, -⟩ := Suite.runAll_eq_some_iff.1 h
    exact ⟨Suite.tellsOf_of_runAll h, hruns.length_eq⟩
  · obtain ⟨report, hrun⟩ := Call.run_all_of_underway h
    refine ⟨by rw [hrun, Option.isSome_map], fun summary s' b' hall => ?_⟩
    refine ⟨_, by rw [hrun, hall]; rfl, ?_⟩
    rw [Call.exitCode_done_iff]
    exact (Suite.tellsOf_of_runAll hall).allPassed_iff
  · have hrun := Call.run_only_of_underway h
    refine ⟨by rw [hrun, Option.isSome_map], fun t? s' b' hone => ?_⟩
    obtain ⟨index, o, time, hget, rfl, rfl⟩ := Suite.run_of_find? ht hone
    obtain ⟨hlt, -⟩ := List.getElem?_eq_some_iff.1 hget
    refine ⟨index, _, _, hget, List.getElem?_set_self hlt, rfl, by rw [hrun, hone]; rfl, ?_, fun other hother => ?_⟩
    · rw [Option.elim_some, Call.exitCode_done_iff, beq_iff_eq]
    · exact List.getElem?_set_ne (Ne.symm hother)

/-! A call that runs two tests, of which the second makes the interpreter leave, and one that runs the first -/

namespace Crashing

def firstId : Uuid := .version4 1

def first : Test := .fresh firstId "first" none "pass"

def second : Test := .fresh (.version4 2) "second" none "pass"

/-- The payload of the first test, whatever is run. -/
def reply : Reply := ⟨none, true, Markers.test.wrap "\x7b\"name\": \"first\", \"status\": \"PASSED\"\x7d", "", none, none⟩

/-- The script of the second test makes it leave. -/
def react (source : String) : Reaction :=
  if source = Suite.script second "" then .leaves (some (.code 1)) else .replies reply

def disk : Disk :=
  (Disk.empty.setEntry ["ana.json"] (.file (Text.encodeUtf8 (writeTests [first, second])))).setEntry ["python3"] .program

def machine : Machine := ⟨disk, [], [[]], none, fun _ => .ofReactions react, 0⟩

/-- It reads an empty main file from its input. -/
def call (more : List String) : Call where
  arguments := ["test", "--owner", "ana", "run", "--main", "-"] ++ more
  environment := [("PYRUNNER_RUNTIME_DIR", ""), ("PYRUNNER_TEST_STORE_PATH", "")]
  userHome := some "/"
  input := []
  colour := false
  newId := .version4 3
  clock := ⟨⟨2024, 5, 17⟩, 600, 0, 0⟩

theorem read_all : CommandLine.Invocation.read (call []).arguments =
    .ok ⟨0, false, .test (some "ana") (.run "-" none none)⟩ := by
  have hscan : CommandLine.scan .root .start (call []).arguments =
      .ok (.start, some (.test, ["--owner", "ana", "run", "--main", "-"])) := rfl
  have hscan' : CommandLine.scan .test .start ["--owner", "ana", "run", "--main", "-"] =
      .ok ({ CommandLine.Scan.start with pending := some (.owner, some "ana") }, some (.runTests, ["--main", "-"])) := rfl
  have hscan'' : CommandLine.scan .runTests .start ["--main", "-"] =
      .ok ({ CommandLine.Scan.start with pending := some (.main, some "-") }, none) := rfl
  rw [CommandLine.Invocation.read, CommandLine.read_of_scan_below hscan, CommandLine.read_of_scan_below hscan',
    CommandLine.read_of_scan_end hscan'']
  rfl

theorem read_first : CommandLine.Invocation.read (call ["--only", "00000000-0000-4000-8000-000000000001"]).arguments =
    .ok ⟨0, false, .test (some "ana") (.run "-" (some firstId) none)⟩ := by
  have hscan : CommandLine.scan .root .start (call ["--only", "00000000-0000-4000-8000-000000000001"]).arguments =
      .ok (.start, some (.test,
        ["--owner", "ana", "run", "--main", "-", "--only", "00000000-0000-4000-8000-000000000001"])) := rfl
  have hscan' : CommandLine.scan .test .start
      ["--owner", "ana", "run", "--main", "-", "--only", "00000000-0000-4000-8000-000000000001"] =
      .ok ({ CommandLine.Scan.start with pending := some (.owner, some "ana") },
        some (.runTests, ["--main", "-", "--only", "00000000-0000-4000-8000-000000000001"])) := rfl
  have hscan'' : CommandLine.scan .runTests .start ["--main", "-", "--only", "00000000-0000-4000-8000-000000000001"] =
      .ok ({ CommandLine.Scan.start with
        found := [(.main, "-")]
        pending := some (.only, some "00000000-0000-4000-8000-000000000001") }, none) := rfl
  rw [CommandLine.Invocation.read, CommandLine.read_of_scan_below hscan, CommandLine.read_of_scan_below hscan',
    CommandLine.read_of_scan_end hscan'']
  rfl

theorem isInput_dash : isInput "-" = true := by
  have hsplit : String.splitOn "-" "/" = ["-"] := by
    rw [String.splitOn, if_neg (by decide), String.splitOnAux, if_neg (by decide), if_neg (by decide),
      String.splitOnAux, if_pos (by decide)]
    decide
  rw [isInput, hsplit]
  rfl

theorem directories (more : List String) :
    ((call more).settings machine).1.driverDirectory ((call more).settings machine).2 = "" ∧
    ((call more).settings machine).1.storeDirectory ((call more).settings machine).2 = "" ∧
    ((call more).settings machine).1.python = "python3" ∧ ((call more).settings machine).1.startupTimeout = 15000 := by
  have hsettings : (call more).settings machine = (call []).settings machine := rfl
  rw [hsettings]
  decide +kernel

theorem world_eq (more : List String) : (call more).testWorld machine none =
    Bench.world (.files ⟨⟨[], ""⟩⟩) (optionsFor ((call more).settings machine).1 none) := by
  rw [Call.testWorld, (directories more).2.1]
  rfl

theorem load_disk (more : List String) :
    Suite.load ((call more).testWorld machine none) "ana" ((call more).desk machine).bench =
      .ok ⟨"ana", [first, second]⟩ := by
  have hleads : disk.Leads ⟨[], ""⟩ (fileName "ana") :=
    Disk.leads_start (isPlain_fileName "ana") _ (fun _ => isNameChar_of_mem_fileName) (by rw [Bench.fileName_ana]; decide)
  have hplace : Folder.place ⟨⟨[], ""⟩⟩ "ana" = ["ana.json"] := by
    rw [Folder.place, Bench.fileName_ana]
    rfl
  have hfile : disk.find? (Folder.place ⟨⟨[], ""⟩⟩ "ana") =
      some (.file (Text.encodeUtf8 (writeTests [first, second]))) := by
    rw [hplace, disk, Disk.find?_setEntry_of_ne _ (by decide), Disk.find?_setEntry_self _ (by decide)]
  have hdated : ∀ t ∈ [first, second], t.IsDated := by
    intro t ht
    simp only [List.mem_cons, List.not_mem_nil, or_false] at ht
    rcases ht with rfl | rfl
    · intro i hi
      cases hi
    · intro i hi
      cases hi
  have hload := Folder.load_of_file hleads hfile hdated
  rw [world_eq]
  exact congrArg (Except.map _) hload

theorem source_of_input (more : List String) :
    (readSource "-").run.run ((call more).desk machine) = some (.ok "", (call more).desk machine) := by
  have hget : (get : Act Desk).run.run ((call more).desk machine) =
      some (.ok ((call more).desk machine), (call more).desk machine) := rfl
  rw [readSource, Act.run_bind_of_ok hget, if_pos isInput_dash]
  rfl

theorem find?_disk_of_ne {name : String} (h : name ≠ "python3") (h' : name ≠ "ana.json") : disk.find? [name] = none := by
  rw [disk, Disk.find?_setEntry_of_ne _ (by simpa using h), Disk.find?_setEntry_of_ne _ (by simpa using h'), Disk.find?,
    if_neg (List.cons_ne_nil name [])]
  rfl

theorem driver_ne {other : String} (h : other.toList.head? ≠ some 'd') : other ≠ DriverFile.name := by
  intro heq
  rw [heq, DriverFile.toList_name] at h
  exact h rfl

theorem temporary_ne {other : String} (h : other.toList.head? ≠ some '.') : other ≠ DriverFile.temporaryName 1 := by
  intro heq
  rw [heq, DriverFile.toList_temporaryName] at h
  exact h rfl

/-- The driver is written where nothing was, and the interpreter is left. -/
theorem exists_installed : ∃ d path, DriverFile.install ⟨[], ""⟩ 1 disk = (.ok path, d) ∧
    d.find? ["python3"] = some .program := by
  have hfits : Path.fits (DriverFile.temporaryName 1) = true := by
    refine Path.fits_of_length ?_
    rw [DriverFile.toList_temporaryName, List.length_append, List.length_append, List.length_append, List.length_append,
      DriverFile.length_digest]
    decide
  have hleads : disk.Leads ⟨[], ""⟩ (DriverFile.temporaryName 1) :=
    Disk.leads_start (DriverFile.isPlain_temporaryName 1) _ (fun _ => DriverFile.isNameChar_of_mem_temporaryName) hfits
  have hfree : disk.find? [DriverFile.temporaryName 1] = none :=
    find?_disk_of_ne (temporary_ne (by decide)).symm (temporary_ne (by decide)).symm
  have hfree' : disk.find? [DriverFile.name] = none :=
    find?_disk_of_ne (driver_ne (by decide)).symm (driver_ne (by decide)).symm
  obtain ⟨d, h⟩ := DriverFile.install_ok rfl rfl hleads (DriverFile.leads_start_name _) (by decide) hfree hfree'
  have hsame := DriverFile.find?_below_of_install h (by decide) (List.cons_ne_nil "python3" [])
    (by simpa using temporary_ne (by decide)) (fun _ => by simpa using driver_ne (by decide))
  have hpython : disk.find? ["python3"] = some .program := Disk.find?_setEntry_self _ (by decide) _
  exact ⟨d, _, h, hsame.trans hpython⟩

theorem exists_acquired {budget : Nat} {interrupts : Bool} (hbudget : budget ≠ 0) :
    ∃ n e, (Engine.initial ⟨"python3", "", budget, interrupts⟩ machine).acquire = (.ok n, e) := by
  obtain ⟨d, path, hinstall, hprogram⟩ := exists_installed
  have hchars : ∀ c ∈ "python3".toList, isNameChar c = true := List.all_eq_true.1 (by decide)
  have hplain : Path.IsPlain "python3" := Path.isPlain_of_isNameChar hchars (by decide)
  have hlook : d.look (Path.join ⟨[], ""⟩ "python3") = .ok .program :=
    Disk.look_join hplain (Disk.leads_start hplain d hchars (by decide)) hprogram
  let m : Machine := { machine with disk := d }
  have hfind : m.findProgram "python3" = .ok () := by
    have hstartable : m.startable ⟨[], "python3"⟩ = .ok () := by
      have hjoin : Path.join ⟨[], ""⟩ "python3" = ⟨[], "python3"⟩ := by decide
      rw [hjoin] at hlook
      rw [Machine.startable, hlook]
      rfl
    rw [Machine.findProgram, if_neg (by decide), if_neg (by simp), if_neg (by simp)]
    change m.search "python3" [[]] = .ok ()
    rw [Machine.search, hstartable]
  have hspawn : m.spawn "python3" = (.ok (.start (.ofReactions react)), { m with started := 1 }) := by
    rw [Machine.spawn, hfind]
    rfl
  have hmachine : machine.install "" = (.ok path, m) := by
    have hdriver : DriverFile.install (machine.path "") 1 machine.disk = (.ok path, d) := hinstall
    rw [Machine.install, hdriver]
  obtain ⟨e, harrive, hstarting, hconfig⟩ := @Engine.exists_arrive
    (Engine.initial ⟨"python3", "", budget, interrupts⟩ machine) _ _ _ _ rfl rfl hmachine hspawn
  obtain ⟨e', hcomplete⟩ := Engine.exists_complete react hstarting (by rw [hconfig]; exact hbudget)
  exact ⟨_, e', by rw [Engine.acquire, harrive]; exact hcomplete⟩

/-- Every such call for tests comes to them. -/
theorem exists_underway {more : List String} {only : Option Uuid} (h : CommandLine.Invocation.read (call more).arguments =
    .ok ⟨0, false, .test (some "ana") (.run "-" only none)⟩) :
    ∃ world b, (call more).Underway machine only world ⟨"ana", [first, second]⟩ "" b ∧
      b.engine.Started (.ofReactions react) ∧ ∃ options, world = Bench.world (.files ⟨⟨[], ""⟩⟩) options := by
  obtain ⟨hdirectory, -, hpython, hbudget⟩ := directories more
  have hacquire : ∃ n e, ((call more).desk machine).bench.engine.acquire = (.ok n, e) := by
    have hconfig : ((call more).desk machine).bench.engine = Engine.initial
        ⟨"python3", "", 15000, ((call more).settings machine).1.getBool "PYRUNNER_INTERRUPTS"⟩ machine := by
      rw [← hpython, ← hdirectory, ← hbudget]
      rfl
    rw [hconfig]
    exact exists_acquired (by decide)
  obtain ⟨n, e, hacquire⟩ := hacquire
  have hstart : startEngine.run.run ((call more).desk machine) =
      some (.ok (), { (call more).desk machine with bench := { ((call more).desk machine).bench with engine := e } }) := by
    rw [startEngine, Act.run_onBench_bind]
    rw [hacquire]
    rfl
  refine ⟨_, _, .intro h rfl (load_disk more) (source_of_input more) hstart, ?_, ?_⟩
  · exact Engine.started_of_acquire rfl rfl hacquire
  · exact ⟨_, world_eq more⟩

theorem react_first : react (Suite.script first "") = .replies reply := by
  refine if_neg fun heq => ?_
  exact absurd (Script.testScript_inj.1 heq).1 (by decide)

theorem react_second : react (Suite.script second "") = .leaves (some (.code 1)) := if_pos rfl

theorem judged_first (time : Time.Instant) : (Suite.judged first (Reaction.replies reply).outcome time).status = .passed := by
  rw [Suite.status_judged]
  decide +kernel

/-- A call for both tests fails, since the second one is an error. A call for the first one alone succeeds. -/
theorem success_iff_passed_of_crash :
    (∃ (ended : Ended) (engine : Engine) (summary : Summary) (tests : List Test),
      (call []).run machine = some (ended, engine) ∧ ended.exitCode ≠ 0 ∧ summary.TellsOf tests ∧ tests.length = 2) ∧
    ∃ ended engine, (call ["--only", "00000000-0000-4000-8000-000000000001"]).run machine = some (ended, engine) ∧
      ended.exitCode = 0 := by
  constructor
  · obtain ⟨world, b, hunderway, hstarted, options, rfl⟩ := exists_underway read_all
    obtain ⟨old, w, hready, hnext⟩ := Engine.ready_of_started (Interpreter.steady_ofReactions react) hstarted
    obtain ⟨s', b', -, hruns, -⟩ := @Suite.exists_runs_of_ready (.files ⟨⟨[], ""⟩⟩) options "" react
      ⟨"ana", [first, second]⟩ b 0 old w hready (by rw [hnext]; decide)
    have hall := Suite.runAll_eq_some_iff.2 ⟨_, hruns, rfl⟩
    obtain ⟨-, hends⟩ := success_iff_passed.2.1 _ _ _ _ _ _ hunderway
    obtain ⟨ended, hrun, hcode⟩ := hends _ _ _ hall
    obtain ⟨htells, hlength⟩ := success_iff_passed.1 _ _ _ _ _ _ _ hall
    refine ⟨ended, _, _, _, hrun, fun hzero => ?_, htells, hlength⟩
    have hcrashed : (outcomesOf react (List.map (fun t => Suite.script t "") [first, second]))[1 - 0]? =
        some (Reaction.leaves (some (.code 1))).outcome := by
      rw [List.map_cons, outcomesOf_of_stay (by rw [react_first]; rfl), List.map_singleton,
        outcomesOf_of_crash (by rw [react_second]; rfl), react_second]
      rfl
    obtain ⟨time, hsecond⟩ := hruns.getElem?_of_le (Nat.zero_le 1) (t := second) rfl hcrashed
    have hpassed := hcode.1 hzero _ (List.mem_of_getElem? hsecond)
    have herror : (second.verdict (Reaction.leaves (some (.code 1))).outcome).1 = .error := rfl
    rw [Suite.status_judged] at hpassed
    exact absurd (herror.symm.trans hpassed) nofun
  · obtain ⟨world, b, hunderway, hstarted, options, rfl⟩ := exists_underway read_first
    obtain ⟨old, w, hready, hnext⟩ := Engine.ready_of_started (Interpreter.steady_ofReactions react) hstarted
    obtain ⟨e, hengine, -⟩ := @Suite.exists_saved_of_ready (.files ⟨⟨[], ""⟩⟩) options "" react b old w hready
      (by rw [hnext]; decide) ⟨"ana", [first, second]⟩ 0 first
    have hworld : (Bench.world (.files ⟨⟨[], ""⟩⟩) options).run (Suite.script first "") b =
        some ((Reaction.replies reply).outcome, { b with engine := e }) := by
      rw [react_first] at hengine
      simp only [Bench.world, Bench.run, hengine]
      rfl
    have hone := (@Suite.run_eq_some_iff _ (Bench.world (.files ⟨⟨[], ""⟩⟩) options) "" ⟨"ana", [first, second]⟩ _
      firstId _ b _).2 ⟨0, first, _, _, rfl, rfl, hworld, rfl, rfl, rfl⟩
    obtain ⟨-, hends⟩ := success_iff_passed.2.2 _ _ _ _ _ _ _ first hunderway rfl
    obtain ⟨index, t', ended, -, -, ht, hrun, hcode, -⟩ := hends _ _ _ hone
    refine ⟨ended, _, hrun, hcode.2 ?_⟩
    cases ht
    exact judged_first _

end Crashing

end ScriptBench
