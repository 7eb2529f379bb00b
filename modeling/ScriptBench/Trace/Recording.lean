import ScriptBench.Execution.Run
import ScriptBench.Trace.Error
import ScriptBench.Trace.Step

/-! Tracing a program: the trace script is run, and the trace is read from its output. -/
namespace ScriptBench

/-- How programs are traced: how they are run, and how many steps are recorded. -/
structure TraceOptions where
  run : RunOptions
  maxSteps : Nat
  deriving DecidableEq, Repr

/-- How many steps are recorded if nothing else is asked for. -/
def TraceOptions.defaultMaxSteps : Nat := 1000

def Trace.ofOutcome (o : Outcome) : Except TraceError Trace :=
  match o.failure? with
  | some f => .error (if f.kind = .environmentNotReady then .environmentNotReady else .execution f)
  | none => (Markers.trace.decode Trace.read o.stdout).mapError .payload

/-- Traces a source from start to end. An exception in the source is part of the trace. -/
def Engine.trace (e : Engine) (options : TraceOptions) (source : String) (library? : Option String) :
    Option (Except TraceError Trace × Engine) :=
  (e.run options.run (Script.traceScript source options.maxSteps) library?).map fun (o, e) =>
    (Trace.ofOutcome o, e)

end ScriptBench
