import ScriptBench.Json.Printer
import ScriptBench.Json.Record

/-! What comes of running a program: its streams, the value of its last expression, and what went wrong. -/
namespace ScriptBench

inductive FailureKind where
  /-- No interpreter was at hand when the call arrived. -/
  | environmentNotReady
  /-- The interrupt was delivered when the time budget had elapsed. -/
  | timeout
  /-- The interpreter went away during the call. -/
  | crashed
  /-- The driver refused the request. The interpreter lives on. -/
  | driverError
  /-- The program raised an exception, which the interpreter names. -/
  | exception (name : String)
  deriving DecidableEq, Repr

namespace FailureKind

def name : FailureKind → String
  | .environmentNotReady => "EnvironmentNotReady"
  | .timeout => "Timeout"
  | .crashed => "RuntimeCrashed"
  | .driverError => "DriverError"
  | .exception name => name

/-- The kind with a name. Every name that is not a kind of the engine is one of an exception. -/
def ofName (name : String) : FailureKind :=
  if name = "EnvironmentNotReady" then .environmentNotReady
  else if name = "Timeout" then .timeout
  else if name = "RuntimeCrashed" then .crashed
  else if name = "DriverError" then .driverError
  else .exception name

@[simp] theorem name_ofName (s : String) : (ofName s).name = s := by
  unfold ofName
  repeat' split
  all_goals simp_all [name]

end FailureKind

/-- A failure. The traceback is the text that the interpreter printed, empty if there is none. -/
structure Failure where
  kind : FailureKind
  message : String
  traceback : String
  deriving DecidableEq, Repr

namespace Failure

/-- A timeout reads the same whatever the interrupt led to. -/
def timeout : Failure :=
  ⟨.timeout, "Execution timed out: the program exceeded its time budget.", ""⟩

def text (f : Failure) : String :=
  if f.message = "" then f.kind.name else f.kind.name ++ ": " ++ f.message

end Failure

structure Outcome where
  success : Bool
  stdout : String
  stderr : String
  value? : Option String
  failure? : Option Failure
  deriving DecidableEq, Repr

namespace Outcome

def failed (f : Failure) : Outcome := ⟨false, "", "", none, some f⟩

end Outcome

/-! Failures in JSON -/

structure FailureDraft where
  kind : Option FailureKind
  message : Option String
  traceback : Option String

def readFailureKind : Json.Reader FailureKind := fun text => do
  let (name, rest) ← Json.readText text
  return (.ofName name, rest)

def Failure.shape : Json.Shape FailureDraft Failure where
  title := "ExecutionError"
  slots :=
    [.required "kind" (·.kind) (fun s a => { s with kind := a }) readFailureKind,
     .required "message" (·.message) (fun s a => { s with message := a }) Json.readText,
     .optional "raw_trace" (·.traceback) (fun s a => { s with traceback := a }) Json.readText]
  empty := ⟨none, none, none⟩
  build s := do
    let kind ← Json.need "kind" s.kind
    let message ← Json.need "message" s.message
    return ⟨kind, message, s.traceback.getD ""⟩

end ScriptBench
