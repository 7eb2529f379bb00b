import ScriptBench.Json.Printer
import ScriptBench.Json.Record
import ScriptBench.Script.TraceScript

/-! Traces: the state of a program after each line it executed. -/
namespace ScriptBench

structure Step where
  index : UInt64
  /-- A line of the source, or zero for the end of a clean run. -/
  line : UInt32
  depth : UInt32
  /-- The visible variables with their values as text. -/
  bindings : Dictionary String
  /-- The variables whose text differs from the step before. -/
  changed : Names
  /-- What the program has printed so far. -/
  stdout : String
  deriving DecidableEq, Repr

def Step.isEnd (s : Step) : Bool := s.line == Script.programEnd

structure Trace where
  success : Bool
  steps : List Step
  output : String
  /-- The exception that ended the program: its name and its message. -/
  error? : Option String
  errorKind? : Option String
  /-- Whether steps were dropped because there were too many. -/
  truncated : Bool
  deriving DecidableEq, Repr

/-! Steps and traces in JSON -/

open Json (Value Slot Shape)

def Step.toJson (s : Step) : Value :=
  .object
    [("index", .nat s.index.toNat),
     ("line", .nat s.line.toNat),
     ("call_depth", .nat s.depth.toNat),
     ("variables", .object (s.bindings.entries.map fun e => (e.1, .string e.2))),
     ("changed", .array (s.changed.names.map .string)),
     ("stdout", .string s.stdout)]

def Trace.toJson (t : Trace) : Value :=
  .object
    [("success", .bool t.success),
     ("steps", .array (t.steps.map Step.toJson)),
     ("combined_output", .string t.output),
     ("error", .text? t.error?),
     ("error_kind", .text? t.errorKind?),
     ("truncated", .bool t.truncated)]

structure StepDraft where
  index : Option UInt64
  line : Option UInt32
  depth : Option UInt32
  bindings : Option (Dictionary String)
  changed : Option Names
  stdout : Option String

def Step.shape : Shape StepDraft Step where
  title := "ExecutionStep"
  slots :=
    [.required "index" (·.index) (fun s a => { s with index := a }) (Json.readUInt64As "usize"),
     .required "line" (·.line) (fun s a => { s with line := a }) Json.readUInt32,
     .required "call_depth" (·.depth) (fun s a => { s with depth := a }) Json.readUInt32,
     .required "variables" (·.bindings) (fun s a => { s with bindings := a })
       (Json.readDictionary Json.readText),
     .required "changed" (·.changed) (fun s a => { s with changed := a }) Json.readNames,
     .required "stdout" (·.stdout) (fun s a => { s with stdout := a }) Json.readText]
  empty := ⟨none, none, none, none, none, none⟩
  build s := do
    let index ← Json.need "index" s.index
    let line ← Json.need "line" s.line
    let depth ← Json.need "call_depth" s.depth
    let bindings ← Json.need "variables" s.bindings
    let changed ← Json.need "changed" s.changed
    let stdout ← Json.need "stdout" s.stdout
    return ⟨index, line, depth, bindings, changed, stdout⟩

structure TraceDraft where
  success : Option Bool
  steps : Option (List Step)
  output : Option String
  error : Option (Option String)
  errorKind : Option (Option String)
  truncated : Option Bool

def Trace.shape : Shape TraceDraft Trace where
  title := "TracePayload"
  slots :=
    [.required "success" (·.success) (fun s a => { s with success := a }) Json.readBool,
     .required "steps" (·.steps) (fun s a => { s with steps := a }) (Json.readList Step.shape.read),
     .optional "output" (·.output) (fun s a => { s with output := a }) Json.readText,
     .optional "error" (·.error) (fun s a => { s with error := some a }) (Json.readOption Json.readText),
     .optional "error_kind" (·.errorKind) (fun s a => { s with errorKind := some a })
       (Json.readOption Json.readText),
     .optional "truncated" (·.truncated) (fun s a => { s with truncated := a }) Json.readBool]
  empty := ⟨none, none, none, none, none, none⟩
  build s := do
    let success ← Json.need "success" s.success
    let steps ← Json.need "steps" s.steps
    return ⟨success, steps, s.output.getD "", s.error.join, s.errorKind.join, s.truncated.getD false⟩

def Trace.read (text : String) : Except Json.ReadError Trace := Json.parse Trace.shape.read text

end ScriptBench
