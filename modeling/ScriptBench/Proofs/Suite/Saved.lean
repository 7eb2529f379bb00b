import ScriptBench.Proofs.Json.Printed
import ScriptBench.Proofs.Json.Reading
import ScriptBench.Proofs.Time.Text
import ScriptBench.Proofs.Uuid
import ScriptBench.Suite.Test

/-! Saved tests are read back as they were written. -/
namespace ScriptBench

open Json

namespace Test

/-- The test was last run at a point of the calendar, if it was run. -/
def IsDated (t : Test) : Prop := ∀ i ∈ t.lastRun?, i.IsValid

theorem takes_readId (u : Uuid) : Takes readId (.string u.text) u := by
  refine takes_parsed ?_
  rw [Uuid.ofText?_text]
  rfl

theorem takes_readInstant {i : Time.Instant} (h : i.IsValid) : Takes readInstant (.string i.text) i := by
  refine takes_parsed ?_
  rw [Time.Instant.read_text h]
  rfl

theorem takes_status (s : Status) : Takes Status.read (.string s.name) s := by
  refine takes_variant ?_
  cases s <;> rfl

theorem takes_lastRun {i? : Option Time.Instant} (h : ∀ i ∈ i?, i.IsValid) :
    Takes (readOption readInstant) (.text? (i?.map Time.Instant.text)) i? := by
  cases i? with
  | none => exact takes_null _
  | some i => exact takes_some (by intro h; cases h) (takes_readInstant (h i rfl))

/-- A test is read from each of its texts. -/
theorem takes_test {t : Test} (h : t.IsDated) : Takes shape.read t.toJson t := by
  obtain ⟨id, displayName, functionName?, source, status, output, lastRun?⟩ := t
  have hgathers : Gathers shape.readMember shape.empty
      [("id", .string id.text), ("display_name", .string displayName), ("function_name", .text? functionName?),
        ("source", .string source), ("status", .string status.name), ("output", .string output),
        ("last_run", .text? (lastRun?.map Time.Instant.text))]
      ⟨some id, some displayName, some functionName?, some source, some status, some output, some lastRun?⟩ := by
    refine .cons (takesMember_field rfl rfl (takes_required (takes_readId id) _)) ?_
    refine .cons (takesMember_field rfl rfl (takes_required (takes_text displayName) _)) ?_
    refine .cons (takesMember_field rfl rfl (takes_required (takes_text? functionName?) _)) ?_
    refine .cons (takesMember_field rfl rfl (takes_required (takes_text source) _)) ?_
    refine .cons (takesMember_field rfl rfl (takes_required (takes_status status) _)) ?_
    refine .cons (takesMember_field rfl rfl (takes_required (takes_text output) _)) ?_
    refine .cons (takesMember_field rfl rfl (takes_optional (takes_lastRun h) _)) ?_
    exact .nil _
  exact takes_record hgathers rfl

theorem spells_toJson (t : Test) (level : Nat) : Spells t.toJson (t.toJson.indented level) := by
  refine spells_indented_object fun m hm => ?_
  simp only [List.mem_cons, List.not_mem_nil, or_false] at hm
  rcases hm with rfl | rfl | rfl | rfl | rfl | rfl | rfl
  · exact (printed_text _).spells
  · exact (printed_text _).spells
  · exact spells_indented_text? _ _
  · exact (printed_text _).spells
  · exact (printed_text _).spells
  · exact (printed_text _).spells
  · exact spells_indented_text? _ _

end Test

/-- What was written is read back, test by test. -/
theorem readTests_writeTests {tests : List Test} (h : ∀ t ∈ tests, t.IsDated) :
    readTests (writeTests tests) = .ok tests := by
  have hspells : Spells (.array (tests.map Test.toJson)) ((Value.array (tests.map Test.toJson)).indented 0) := by
    refine spells_indented_array fun v hv => ?_
    obtain ⟨t, _, rfl⟩ := List.mem_map.1 hv
    exact t.spells_toJson 1
  refine parse_of_takes (takes_list fun t ht => Test.takes_test (h t ht)) ?_
  rw [writeTests, Value.pretty, String.toList_ofList]
  exact hspells

end ScriptBench
