import ScriptBench.Proofs.Engine.Answering
import ScriptBench.Proofs.Json.Fields
import ScriptBench.Proofs.Markers.Last
import ScriptBench.Proofs.Script.Literal
import ScriptBench.Proofs.Suite.Verdict

/-! The way of a test's name: as a literal into its script, with the script to the interpreter, and in the payload
back. An interpreter that answers with the name that it was given is believed. -/
namespace ScriptBench

open Json Text

/-! Results -/

/-- The values of the members with a name. -/
def valuesOf (members : List (String × Value)) (name : String) : List Value :=
  (members.filter fun m => m.1 == name).map (·.2)

/-- Members of a result without an error. Fields that are not needed may be absent, and any others may be there. -/
structure TellsOutput (members : List (String × Value)) (id : Nat) (stdout : String) : Prop where
  type : valuesOf members "type" = [.string "result"]
  id : valuesOf members "id" = [.nat id]
  ok : valuesOf members "ok" = [.bool true]
  stdout : valuesOf members "stdout" = [.string stdout]
  stderr : valuesOf members "stderr" = [] ∨ ∃ text, valuesOf members "stderr" = [.string text]
  value : valuesOf members "value" = [] ∨ ∃ text?, valuesOf members "value" = [.text? text?]
  error : valuesOf members "error" = [] ∨ valuesOf members "error" = [.null]

section

variable {members : List (String × Value)} {name : String}

theorem optional?_of_nil {α : Type} (h : valuesOf members name = []) (fallback : α) (read : Value → Option α) :
    Message.optional? members name fallback read = some fallback := by
  have hnone : members.filter (fun m => m.1 == name) = [] := List.map_eq_nil_iff.1 h
  rw [Message.optional?, Message.once?, hnone]
  rfl

theorem once?_of_singleton {v : Value} (h : valuesOf members name = [v]) :
    Message.once? members name = some (some v) := by
  obtain ⟨m, hm, rfl⟩ := List.map_eq_singleton_iff.1 h
  rw [Message.once?, hm]

/-- The member that tells the type does not count among the others. -/
theorem valuesOf_filter (hname : name ≠ "type") :
    valuesOf (members.filter fun m => m.1 != "type") name = valuesOf members name := by
  have hkeep : ∀ m ∈ members, ((m.1 == name) && (m.1 != "type")) = (m.1 == name) := by
    intro m _
    by_cases hm : m.1 = name
    · simp [hm, hname]
    · simp [hm]
  rw [valuesOf, valuesOf, List.filter_filter, List.filter_congr hkeep]

theorem TellsOutput.exists_reply {id : Nat} {stdout : String} (h : TellsOutput members id stdout)
    (hid : id < UInt64.size) :
    ∃ reply, Message.ofValue? (.object members) = some (.result reply) ∧ reply.id? = some id ∧ reply.ok = true ∧
      reply.stdout = stdout ∧ reply.error? = none := by
  obtain ⟨htype, hnumber, hok, hstdout, hstderr, hvalue, herror⟩ := h
  generalize hothers : (members.filter fun m => m.1 != "type") = others
  have hof : ∀ {name}, name ≠ "type" → valuesOf others name = valuesOf members name := by
    intro name hname
    rw [← hothers, valuesOf_filter hname]
  rw [← hof (by decide)] at hnumber hok hstdout hstderr hvalue herror
  obtain ⟨stderr, hstderr⟩ : ∃ text, Message.optional? others "stderr" "" Message.text? = some text := by
    rcases hstderr with hnil | ⟨text, hone⟩
    · exact ⟨"", optional?_of_nil hnil _ _⟩
    · exact ⟨text, optional?_of_once? (once?_of_singleton hone) _ _⟩
  obtain ⟨value?, hvalue⟩ : ∃ value?, Message.optional? others "value" none (Message.nullable? Message.text?) =
      some value? := by
    rcases hvalue with hnil | ⟨text?, hone⟩
    · exact ⟨none, optional?_of_nil hnil _ _⟩
    · refine ⟨text?, (optional?_of_once? (once?_of_singleton hone) _ _).trans ?_⟩
      cases text? <;> rfl
  have herror : Message.optional? others "error" none (Message.nullable? Message.raisedError?) = some none := by
    rcases herror with hnil | hone
    · exact optional?_of_nil hnil _ _
    · exact optional?_of_once? (once?_of_singleton hone) _ _
  refine ⟨⟨some id, true, stdout, stderr, value?, none⟩, ?_, rfl, rfl, rfl, rfl⟩
  rw [Report.ofValue?_of_type (once?_of_singleton htype), hothers, Message.resultOf?,
    optional?_of_once? (once?_of_singleton hnumber), nullable?_nat hid, required?_of_once? (once?_of_singleton hok),
    optional?_of_once? (once?_of_singleton hstdout), hstderr, hvalue, herror]
  rfl

theorem TellsOutput.exists_answers {id : Nat} {stdout line : String} (h : TellsOutput members id stdout)
    (hid : id < UInt64.size) (hheight : (Value.object members).height < depthLimit)
    (hline : Spells (.object members) line.toList) :
    ∃ reply, Answers id line (.ok reply) ∧ reply.ok = true ∧ reply.stdout = stdout ∧ reply.error? = none := by
  obtain ⟨reply, hread, hnumber, hreply⟩ := h.exists_reply hid
  refine ⟨reply, .result ?_ hnumber, hreply⟩
  rw [Message.ofLine?, parse_of_spells hheight hline]
  exact hread

end

/-! Payloads of tests -/

namespace TestPayload

/-- What the test script prints of a test, and how it is read. -/
def fields (p : TestPayload) : List (Json.Field Draft) :=
  [⟨"name", .string p.name, fun s => { s with name := some p.name }⟩,
   ⟨"status", .string p.status.label, fun s => { s with status := some p.status }⟩,
   ⟨"output", .string p.output, fun s => { s with output := some p.output }⟩]

/-- The members of the object that tells of a test. -/
def members (p : TestPayload) : List (String × Value) :=
  [("name", .string p.name), ("status", .string p.status.label), ("output", .string p.output)]

theorem fits_fields {p : TestPayload} (h : p.status ≠ .pending) : ∀ f ∈ p.fields, f.Fits shape := by
  have hstatus : statuses.lookup p.status.label = some p.status := by
    cases hs : p.status with
    | pending => exact (h hs).elim
    | passed => decide
    | failed => decide
    | error => decide
  intro f hf
  simp only [fields, List.mem_cons, List.not_mem_nil, or_false] at hf
  rcases hf with rfl | rfl | rfl
  · exact ⟨_, rfl, takes_required (takes_text p.name)⟩
  · exact ⟨_, rfl, takes_required (takes_variant hstatus)⟩
  · exact ⟨_, rfl, takes_optional (takes_text p.output)⟩

theorem apart_fields (p : TestPayload) : p.fields.Pairwise (Field.Apart shape) := by
  simp only [fields, List.pairwise_cons, List.forall_mem_cons, List.not_mem_nil, false_implies, implies_true,
    List.Pairwise.nil, and_true]
  and_intros
  all_goals exact ⟨fun _ => rfl, fun _ => rfl, fun _ => rfl⟩

/-- A payload is read from its members in any order. -/
theorem takes_members {p : TestPayload} (hp : p.status ≠ .pending) {ms : List (String × Value)}
    (h : p.members.Perm ms) : Takes shape.read (.object ms) p := by
  have hempty : ∀ f ∈ p.fields, shape.holds shape.empty f.name = false := by
    intro f hf
    simp only [fields, List.mem_cons, List.not_mem_nil, or_false] at hf
    rcases hf with rfl | rfl | rfl <;> rfl
  exact takes_record_of_perm (fits_fields hp) p.apart_fields hempty rfl h

theorem printed_members (p : TestPayload) : (Value.object p.members).Printed := by
  refine printed_object fun m hm => ?_
  simp only [members, List.mem_cons, List.not_mem_nil, or_false] at hm
  rcases hm with rfl | rfl | rfl <;> exact printed_text _

end TestPayload

/-- An output that ends with a payload in the name of the test is the verdict on the test. -/
theorem Test.verdict_of_endsWith {t : Test} {reply : Reply} {interrupted : Bool} {status : Status} {output : String}
    (hstatus : status ≠ .pending) (hok : reply.ok = true) (herror : reply.error? = none)
    (h : Markers.test.EndsWith (TestPayload.members ⟨t.identity, status, output⟩) reply.stdout) :
    t.verdict (.ofReply reply interrupted) = (status, output) := by
  have hfailure : (Outcome.ofReply reply interrupted).failure? = none := by
    rw [Outcome.failure?_ofReply, Reply.failure?_eq_none_iff]
    exact ⟨herror, hok⟩
  have hdecode : Markers.test.decode TestPayload.read reply.stdout = .ok ⟨t.identity, status, output⟩ :=
    Markers.decode_of_endsWith (.inr rfl) h fun _ hms => TestPayload.takes_members hstatus hms
  exact verdict_of_own_payload hfailure (Markers.decode_eq_ok_iff.1 hdecode) rfl

/-! Honest answers -/

/-- What an interpreter reads from a line: a number and a program. -/
def Request.Reads (line : String) (id : Nat) (code : String) : Prop :=
  ∃ members, Value.parse line = .ok (.object members) ∧ members.lookup "id" = some (.nat id) ∧
    members.lookup "code" = some (.string code)

theorem Request.eq_of_reads {r : Request} (hid : r.id < UInt64.size) {id : Nat} {code : String}
    (h : Request.Reads r.line id code) : id = r.id ∧ code = r.code := by
  obtain ⟨members, hparse, hnumber, hcode⟩ := h
  rw [Request.parse_line hid] at hparse
  cases hparse
  have hnumber : some (Value.nat r.id) = some (.nat id) := hnumber
  have hcode : some (Value.string r.code) = some (.string code) := hcode
  simp only [Value.nat, Option.some.injEq, Value.number.injEq, Number.int.injEq, Int.ofNat_inj] at hnumber
  simp only [Option.some.injEq, Value.string.injEq] at hcode
  exact ⟨hnumber.symm, hcode.symm⟩

/-- An interpreter answers a line honestly: it evaluates the name that the program assigns, and its result carries the
number of the request and an output that ends with a payload in that name. -/
def HonestAnswer (line answer : String) (status : Status) (output : String) : Prop :=
  ∃ (id : Nat) (code name stdout : String) (members : List (String × Value)),
    Request.Reads line id code ∧ Script.Assigns code "_PR_NAME" (Script.pointsOf name) ∧
    Markers.test.EndsWith (TestPayload.members ⟨name, status, output⟩) stdout ∧
    TellsOutput members id stdout ∧ (Value.object members).height < depthLimit ∧
    Spells (.object members) answer.toList

namespace Suite

variable {t : Test} {main : String} {status : Status} {output : String} {w : Worker} {module : String}

/-- An honest answer is the reply to the call, and it is in the name of the test that was asked about. -/
theorem exists_reply_of_honest {answer : String} (hid : w.nextId < UInt64.size)
    (h : HonestAnswer (w.request (script t main) none module).line answer status output) :
    ∃ reply, Answers w.nextId answer (.ok reply) ∧ reply.ok = true ∧ reply.error? = none ∧
      Markers.test.EndsWith (TestPayload.members ⟨t.identity, status, output⟩) reply.stdout := by
  obtain ⟨id, code, name, stdout, members, hreads, hassigns, hends, htells, hheight, hline⟩ := h
  obtain ⟨rfl, rfl⟩ := Request.eq_of_reads (r := w.request (script t main) none module) hid hreads
  have hpoints := Script.assigns_testScript_iff.1 hassigns
  rw [Script.pointsOf_inj] at hpoints
  subst hpoints
  obtain ⟨reply, hanswers, hok, hstdout, herror⟩ := htells.exists_answers hid hheight hline
  exact ⟨reply, hanswers, hok, herror, hstdout ▸ hends⟩

/-- What an honest interpreter answers about a test is what a run records, whatever the test is called and whatever was
printed before. -/
theorem run_believes_honest (k : Keeping) (options : RunOptions) (s : Suite) (b : Bench) {n : Nat} {answer : String}
    (hlive : b.engine.supervisor.live = some n) (hworker : b.engine.worker? n = some w)
    (hid : w.nextId < UInt64.size) (hattends : w.process.Attends w.nextId) (hstatus : status ≠ .pending)
    (hsaid : (w.process.interpreter.reply
      (w.process.received ++ [(w.request (script t main) none options.module).line])).Says answer)
    (hhonest : HonestAnswer (w.request (script t main) none options.module).line answer status output) :
    (∀ index, ∃ t' b', s.runAt (Bench.world k options) index t main b = some (t', s.replace index t', b') ∧
      t'.status = status ∧ t'.output = output) ∧
    (∀ id, s.find? id = some t → ∃ index t' b', s.tests[index]? = some t ∧
      s.run (Bench.world k options) id main b = some (some t', s.replace index t', b') ∧
      t'.status = status ∧ t'.output = output) := by
  obtain ⟨reply, hanswers, hok, herror, hends⟩ := exists_reply_of_honest hid hhonest
  have hexec : w.exec options.timeout?.isSome (script t main) none options.module =
      some (.ok reply, w.past (w.request (script t main) none options.module)) :=
    Worker.exec_of_said hattends hsaid hanswers
  have hx : b.engine.Exchanged options (script t main) none n (.ok reply) _ := ⟨hlive, w, hworker, hexec⟩
  obtain ⟨e, hrun⟩ : ∃ e, b.engine.run options (script t main) none = some (.ofReply reply w.begin.2.interrupted, e) :=
    ⟨_, Engine.run_eq_some_iff.2 (.inr ⟨n, _, _, hx, rfl, rfl⟩)⟩
  have hworld : (Bench.world k options).run (script t main) b =
      some (.ofReply reply w.begin.2.interrupted, { b with engine := e }) := by
    simp [Bench.world, Bench.run, hrun]
  have hverdict := @Test.verdict_of_endsWith t reply w.begin.2.interrupted status output hstatus hok herror hends
  let t' := judged t (.ofReply reply w.begin.2.interrupted) b.clock
  have hrecorded : t'.status = status ∧ t'.output = output := by
    simp only [t', judged, hverdict, and_self]
  refine ⟨fun index => ?_, fun id hid => ?_⟩
  · have hat := (@runAt_eq_some_iff _ (Bench.world k options) main s _ index t t' b _).2 ⟨_, _, hworld, rfl, rfl, rfl⟩
    exact ⟨t', _, hat, hrecorded⟩
  · obtain ⟨index, hindex, hget⟩ := exists_findIdx?_of_find? hid
    have hone := (@run_eq_some_iff _ (Bench.world k options) main s _ id t' b _).2
      ⟨index, t, _, _, hindex, hget, hworld, rfl, rfl, rfl⟩
    exact ⟨index, t', _, hget, hone, hrecorded⟩

/-- A test with quotes and line ends in its name fails behind a block that passes another test. -/
theorem run_believes_honest_of_odd_name :
    ∃ (s : Suite) (t : Test) (b b' : Bench) (index : Nat) (t' : Test), t.identity = "\"é\"\n\\" ∧
      s.run (Bench.world .memory ⟨none, "lib"⟩) t.id "x = 1" b = some (some t', s.replace index t', b') ∧
      t'.status = .failed ∧ t'.output = "ü\n" := by
  let t : Test := .fresh ⟨List.replicate 32 0, rfl⟩ "\"é\"\n\\" none "pass"
  let p : TestPayload := ⟨t.identity, .failed, "ü\n"⟩
  let before := Markers.test.wrap (Value.object (TestPayload.members ⟨"other", .passed, ""⟩)).line
  let stdout := before ++ Markers.test.wrap (Value.object p.members).line
  let members : List (String × Value) :=
    [("id", .nat 1), ("ok", .bool true), ("type", .string "result"), ("stdout", .string stdout)]
  have hprinted : (Value.object members).Printed := by
    refine printed_object fun m hm => ?_
    simp only [members, List.mem_cons, List.not_mem_nil, or_false] at hm
    rcases hm with rfl | rfl | rfl | rfl
    · exact printed_nat (by decide)
    · exact printed_bool true
    · exact printed_text "result"
    · exact printed_text stdout
  let answer := (Value.object members).line
  let i : Interpreter := ⟨⟨false, [], .goesOn⟩, fun _ => .say answer⟩
  let w : Worker := ⟨⟨i, [], [], [], none, [], .running⟩, "3.12", none, 1⟩
  let b : Bench := ⟨.around w.process, .empty, ⟨⟨2024, 5, 17⟩, 600, 0, 0⟩⟩
  let r := w.request (script t "x = 1") none "lib"
  have hhonest : HonestAnswer r.line answer .failed "ü\n" := by
    refine ⟨1, script t "x = 1", t.identity, stdout, members, ⟨_, Request.parse_line (r := r) (by decide), rfl, rfl⟩,
      Script.assigns_testScript_iff.2 rfl, ?_, ?_, ?_, ?_⟩
    · exact Markers.endsWith_wrap p.printed_members (.inr (by decide))
    · exact ⟨rfl, rfl, rfl, rfl, .inl rfl, .inl rfl, .inl rfl⟩
    · change 1 < depthLimit
      decide
    · exact hprinted.spells_line
  obtain ⟨_, hone⟩ := @run_believes_honest t "x = 1" .failed "ü\n" w .memory ⟨none, "lib"⟩ ⟨"ana", [t]⟩ b 0 answer
    rfl rfl (by decide) (Process.attends_of_nothing rfl rfl rfl 1) (by decide) (says_line hprinted) hhonest
  obtain ⟨index, t', b', _, hrun, hrecorded⟩ := hone t.id (by decide)
  exact ⟨_, t, b, b', index, t', rfl, hrun, hrecorded⟩

end Suite

end ScriptBench
