import ScriptBench.Engine.Error
import ScriptBench.Execution.Outcome
import ScriptBench.Markers

/-! Why there is no trace. -/
namespace ScriptBench

inductive TraceError where
  | environmentNotReady
  /-- The trace script itself failed to run. -/
  | execution (f : Failure)
  | payload (e : PayloadError)
  deriving DecidableEq, Repr

def TraceError.message : TraceError → String
  | .environmentNotReady => EngineError.notReady.message
  | .execution f => f.text
  | .payload e => e.message

end ScriptBench
