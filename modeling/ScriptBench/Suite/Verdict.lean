import ScriptBench.Execution.Outcome
import ScriptBench.Markers
import ScriptBench.Suite.Test

/-! What a run says about a test: the result that its script printed, if it is the test's own. -/
namespace ScriptBench

structure TestPayload where
  name : String
  status : Status
  output : String
  deriving DecidableEq, Repr

namespace TestPayload

/-- The statuses that a result can have, by the names that the test script uses. -/
def statuses : List (String × Status) :=
  [(Status.passed.label, .passed), (Status.failed.label, .failed), (Status.error.label, .error)]

structure Draft where
  name : Option String
  status : Option Status
  output : Option String

def shape : Json.Shape Draft TestPayload where
  title := "TestPayload"
  slots :=
    [.required "name" (·.name) (fun s a => { s with name := a }) Json.readText,
     .required "status" (·.status) (fun s a => { s with status := a }) (Json.readVariant statuses),
     .optional "output" (·.output) (fun s a => { s with output := a }) Json.readText]
  empty := ⟨none, none, none⟩
  build s := do
    let name ← Json.need "name" s.name
    let status ← Json.need "status" s.status
    return ⟨name, status, s.output.getD ""⟩

def read (text : String) : Except Json.ReadError TestPayload := Json.parse shape.read text

end TestPayload

/-- The result of a test in the output of its script. It has to carry the test's name. -/
def Test.payload (t : Test) (stdout : String) : Except PayloadError TestPayload := do
  let p ← Markers.test.decode TestPayload.read stdout
  if p.name = t.identity then return p
  else .error (.wrongName Markers.test.consumer t.identity p.name)

/-- Status and output of a test after its script was run. -/
def Test.verdict (t : Test) (o : Outcome) : Status × String :=
  match o.failure? with
  | some f => (.error, f.text)
  | none =>
    match t.payload o.stdout with
    | .ok p => (p.status, p.output)
    | .error e => (.error, "Test harness error: " ++ e.message)

end ScriptBench
