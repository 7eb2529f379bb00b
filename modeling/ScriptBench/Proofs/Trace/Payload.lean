import ScriptBench.Proofs.Data.Sorted
import ScriptBench.Proofs.Engine.Answering
import ScriptBench.Proofs.Execution.Exchange
import ScriptBench.Proofs.Json.Fields
import ScriptBench.Proofs.Json.Printed
import ScriptBench.Proofs.Markers.Last
import ScriptBench.Trace.Cursor
import ScriptBench.Trace.Recording

/-! Traces come back from the output of a trace script as they were recorded, whatever the program printed. -/
namespace ScriptBench

open Json Text

/-- A step is read from each of its texts. -/
theorem Step.takes_toJson (s : Step) : Takes Step.shape.read s.toJson s := by
  obtain ⟨index, line, depth, bindings, changed, stdout⟩ := s
  have hbindings : Takes (readDictionary readText) (.object (bindings.entries.map fun e => (e.1, .string e.2)))
      bindings := by
    have hread := takes_dictionary (fun (e : String × String) (_ : e ∈ bindings.entries) => takes_text e.2)
    rwa [Dictionary.ofList_entries] at hread
  have hchanged : Takes readNames (.array (changed.names.map .string)) changed := by
    have hread := takes_names changed.names
    rwa [Names.ofList_names] at hread
  have hgathers : Gathers Step.shape.readMember Step.shape.empty
      [("index", .nat index.toNat), ("line", .nat line.toNat), ("call_depth", .nat depth.toNat),
        ("variables", .object (bindings.entries.map fun e => (e.1, .string e.2))),
        ("changed", .array (changed.names.map .string)), ("stdout", .string stdout)]
      ⟨some index, some line, some depth, some bindings, some changed, some stdout⟩ := by
    refine .cons (takesMember_field rfl rfl (takes_required (takes_uint64As "usize" index) _)) ?_
    refine .cons (takesMember_field rfl rfl (takes_required (takes_uint32 line) _)) ?_
    refine .cons (takesMember_field rfl rfl (takes_required (takes_uint32 depth) _)) ?_
    refine .cons (takesMember_field rfl rfl (takes_required hbindings _)) ?_
    refine .cons (takesMember_field rfl rfl (takes_required hchanged _)) ?_
    refine .cons (takesMember_field rfl rfl (takes_required (takes_text stdout) _)) ?_
    exact .nil _
  exact takes_record hgathers rfl

theorem Step.printed_toJson (s : Step) : s.toJson.Printed := by
  have hindex : s.index.toNat < UInt64.size := s.index.toNat_lt
  have hword : ∀ n : UInt32, n.toNat < UInt64.size := fun n => Nat.lt_trans n.toNat_lt (by decide)
  refine printed_object fun m hm => ?_
  simp only [List.mem_cons, List.not_mem_nil, or_false] at hm
  rcases hm with rfl | rfl | rfl | rfl | rfl | rfl
  · exact printed_nat hindex
  · exact printed_nat (hword s.line)
  · exact printed_nat (hword s.depth)
  · refine printed_object fun e he => ?_
    obtain ⟨entry, _, rfl⟩ := List.mem_map.1 he
    exact printed_text entry.2
  · refine printed_array fun v hv => ?_
    obtain ⟨name, _, rfl⟩ := List.mem_map.1 hv
    exact printed_text name
  · exact printed_text s.stdout

namespace Trace

/-- What the trace script prints of a trace, and how it is read. -/
def fields (t : Trace) : List (Json.Field TraceDraft) :=
  [⟨"success", .bool t.success, fun s => { s with success := some t.success }⟩,
   ⟨"steps", .array (t.steps.map Step.toJson), fun s => { s with steps := some t.steps }⟩,
   ⟨"output", .string t.output, fun s => { s with output := some t.output }⟩,
   ⟨"error", .text? t.error?, fun s => { s with error := some t.error? }⟩,
   ⟨"error_kind", .text? t.errorKind?, fun s => { s with errorKind := some t.errorKind? }⟩,
   ⟨"truncated", .bool t.truncated, fun s => { s with truncated := some t.truncated }⟩]

/-- The members of the object that tells of a trace. -/
def members (t : Trace) : List (String × Value) :=
  [("success", .bool t.success), ("steps", .array (t.steps.map Step.toJson)), ("output", .string t.output),
   ("error", .text? t.error?), ("error_kind", .text? t.errorKind?), ("truncated", .bool t.truncated)]

theorem fits_fields (t : Trace) : ∀ f ∈ t.fields, f.Fits shape := by
  have hsteps : Takes (readList Step.shape.read) (.array (t.steps.map Step.toJson)) t.steps :=
    takes_list fun s _ => s.takes_toJson
  intro f hf
  simp only [fields, List.mem_cons, List.not_mem_nil, or_false] at hf
  rcases hf with rfl | rfl | rfl | rfl | rfl | rfl
  · exact ⟨_, rfl, takes_required (takes_bool t.success)⟩
  · exact ⟨_, rfl, takes_required hsteps⟩
  · exact ⟨_, rfl, takes_optional (takes_text t.output)⟩
  · exact ⟨_, rfl, takes_optional (takes_text? t.error?)⟩
  · exact ⟨_, rfl, takes_optional (takes_text? t.errorKind?)⟩
  · exact ⟨_, rfl, takes_optional (takes_bool t.truncated)⟩

theorem apart_fields (t : Trace) : t.fields.Pairwise (Field.Apart shape) := by
  simp only [fields, List.pairwise_cons, List.forall_mem_cons, List.not_mem_nil, false_implies, implies_true,
    List.Pairwise.nil, and_true]
  and_intros
  all_goals exact ⟨fun _ => rfl, fun _ => rfl, fun _ => rfl⟩

/-- A trace is read from its members in any order. -/
theorem takes_members (t : Trace) {ms : List (String × Value)} (h : t.members.Perm ms) :
    Takes shape.read (.object ms) t := by
  have hempty : ∀ f ∈ t.fields, shape.holds shape.empty f.name = false := by
    intro f hf
    simp only [fields, List.mem_cons, List.not_mem_nil, or_false] at hf
    rcases hf with rfl | rfl | rfl | rfl | rfl | rfl <;> rfl
  exact takes_record_of_perm t.fits_fields t.apart_fields hempty rfl h

/-- A trace can be printed on one line. -/
theorem printed_members (t : Trace) : (Value.object t.members).Printed := by
  refine printed_object fun m hm => ?_
  simp only [members, List.mem_cons, List.not_mem_nil, or_false] at hm
  rcases hm with rfl | rfl | rfl | rfl | rfl | rfl
  · exact printed_bool t.success
  · refine printed_array fun v hv => ?_
    obtain ⟨s, _, rfl⟩ := List.mem_map.1 hv
    exact s.printed_toJson
  · exact printed_text t.output
  · exact printed_text? t.error?
  · exact printed_text? t.errorKind?
  · exact printed_bool t.truncated

theorem decode_of_endsWith {t : Trace} {stdout : String} (h : Markers.trace.EndsWith t.members stdout) :
    Markers.trace.decode read stdout = .ok t :=
  Markers.decode_of_endsWith (.inl rfl) h fun _ hms => t.takes_members hms

end Trace

/-- Why there is no trace if the trace script itself raised an exception. -/
def TraceError.ofRaised (interrupted : Bool) (x : RaisedError) : TraceError :=
  let f := Failure.ofRaised interrupted x
  if f.kind = .environmentNotReady then .environmentNotReady else .execution f

namespace Trace

variable {reply : Reply} {interrupted : Bool}

theorem ofOutcome_of_endsWith {t : Trace} (herror : reply.error? = none) (hok : reply.ok = true)
    (h : Markers.trace.EndsWith t.members reply.stdout) : ofOutcome (.ofReply reply interrupted) = .ok t := by
  have hfailure : (Outcome.ofReply reply interrupted).failure? = none := by
    rw [Outcome.failure?_ofReply, Reply.failure?_eq_none_iff]
    exact ⟨herror, hok⟩
  have hstdout : (Outcome.ofReply reply interrupted).stdout = reply.stdout := rfl
  rw [ofOutcome, hfailure, hstdout, decode_of_endsWith h]
  rfl

theorem ofOutcome_of_raised {x : RaisedError} (h : reply.error? = some x) :
    ofOutcome (.ofReply reply interrupted) = .error (.ofRaised interrupted x) := by
  have hfailure : (Outcome.ofReply reply interrupted).failure? = some (.ofRaised interrupted x) := by
    rw [Outcome.failure?_ofReply, Reply.failure?, h]
  rw [ofOutcome, hfailure]
  rfl

end Trace

namespace Engine

variable {e : Engine} {options : TraceOptions} {source : String} {library? : Option String} {n : Nat} {reply : Reply}
  {w : Worker}

theorem trace_of_exchanged
    (h : e.Exchanged options.run (Script.traceScript source options.maxSteps) library? n (.ok reply) w) :
    e.trace options source library? =
      some (Trace.ofOutcome (.ofReply reply w.interrupted), (e.setWorker n w).afterCall n (.ok reply)) := by
  have hrun := run_eq_some_iff.2 (.inr ⟨n, .ok reply, w, h, rfl, rfl⟩)
  rw [trace, hrun]
  rfl

/-- A trace comes back as it was printed at the end of the output, whatever the program printed in front of it, and
a cursor that loads it stands on its first step. If the trace script raised an exception there is no trace, whatever
stands in the output. -/
theorem trace_reads_back
    (h : e.Exchanged options.run (Script.traceScript source options.maxSteps) library? n (.ok reply) w) :
    (∀ t : Trace, reply.error? = none → reply.ok = true → Markers.trace.EndsWith t.members reply.stdout →
      ∃ result e', e.trace options source library? = some (result, e') ∧ result = .ok t ∧
        ∀ c : Cursor, c.load result = ⟨some t, 0⟩) ∧
    (∀ x, reply.error? = some x →
      ∃ e', e.trace options source library? = some (.error (.ofRaised w.interrupted x), e')) := by
  refine ⟨fun t herror hok ht => ?_, fun x hx => ?_⟩
  · have hread := @Trace.ofOutcome_of_endsWith reply w.interrupted t herror hok ht
    refine ⟨_, _, trace_of_exchanged h, hread, fun c => ?_⟩
    rw [hread]
    rfl
  · rw [trace_of_exchanged h, Trace.ofOutcome_of_raised hx]
    exact ⟨_, rfl⟩

/-- A trace of one step, behind other output and a block that is no trace. -/
theorem trace_reads_back_of_step :
    ∃ (e : Engine) (t : Trace), t.steps ≠ [] ∧
      ∃ result e', e.trace ⟨⟨none, "lib"⟩, 10⟩ "x = 1" none = some (result, e') ∧ result = .ok t ∧
        ∀ c : Cursor, c.load result = ⟨some t, 0⟩ := by
  let t : Trace := ⟨true, [⟨0, 1, 0, .ofList [("x", "'é'")], .ofList ["x"], "a\n"⟩], "a\n", none, none, false⟩
  let before := "a\n" ++ Markers.trace.wrap "no trace"
  let reply : Reply := ⟨some 1, true, before ++ Markers.trace.wrap (Value.object t.members).line, "", none, none⟩
  let i : Interpreter := ⟨⟨false, [], .goesOn⟩, fun _ => .say (reply.toJson 1).line⟩
  let w : Worker := ⟨⟨i, [], [], [], none, [], .running⟩, "3.12", none, 1⟩
  have hexec : w.exec false (Script.traceScript "x = 1" 10) none "lib" = some (.ok reply, w.past _) :=
    Worker.exec_of_said (Process.attends_of_nothing rfl rfl rfl 1) (says_line (reply.printed_toJson (by decide)))
      (.result (reply.ofLine?_line (by decide)) rfl)
  have hx : (around w.process).Exchanged ⟨none, "lib"⟩ (Script.traceScript "x = 1" 10) none 0 (.ok reply) (w.past _) :=
    ⟨rfl, w, rfl, hexec⟩
  have hends : Markers.trace.EndsWith t.members reply.stdout :=
    Markers.endsWith_wrap t.printed_members (.inr (by decide))
  exact ⟨around w.process, t, by decide, (@trace_reads_back _ ⟨⟨none, "lib"⟩, 10⟩ _ _ _ _ _ hx).1 t rfl rfl hends⟩

end Engine

end ScriptBench
