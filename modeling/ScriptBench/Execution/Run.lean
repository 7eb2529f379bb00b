import ScriptBench.Engine.Basic
import ScriptBench.Execution.Outcome

/-! Running one program to its end on the live worker. -/
namespace ScriptBench

/-- How programs are run: within which time, and under which name their library code can be imported. -/
structure RunOptions where
  timeout? : Option Nat
  module : String
  deriving DecidableEq, Repr

def interruptException : String := "KeyboardInterrupt"

def EngineError.failureKind : EngineError → FailureKind
  | .rejected _ => .driverError
  | .notReady => .environmentNotReady
  | .crashed _ => .crashed
  | .initialization _ => .crashed

/-- The failure of a raised exception. The exception of an interrupt is a timeout if the call was
interrupted. Every other one keeps the name that the interpreter gave it. -/
def Failure.ofRaised (interrupted : Bool) (e : RaisedError) : Failure :=
  if interrupted && e.kind == interruptException then .timeout
  else ⟨.ofName e.kind, e.message, e.traceback⟩

def Reply.failure? (r : Reply) (interrupted : Bool) : Option Failure :=
  match r.error? with
  | some e => some (.ofRaised interrupted e)
  | none =>
    if r.ok then none
    else some ⟨.exception "Error", "execution failed without an exception", ""⟩

def Outcome.ofReply (r : Reply) (interrupted : Bool) : Outcome :=
  let failure? := r.failure? interrupted
  ⟨failure?.isNone, r.stdout, r.stderr, if failure?.isNone then r.value? else none, failure?⟩

def Outcome.ofError (e : EngineError) : Outcome := .failed ⟨e.failureKind, e.message, ""⟩

def Outcome.notReady : Outcome := .ofError .notReady

namespace Engine

def afterCall (e : Engine) (n : Nat) : Except EngineError Reply → Engine
  | .error (.crashed c) => e.forget n (.crashed c)
  | _ => e

/-- Runs a program on a worker. There is no outcome if the interpreter keeps silent for ever. -/
def runOn (e : Engine) (n : Nat) (options : RunOptions) (source : String) (library? : Option String) :
    Option (Outcome × Engine) := do
  let w ← e.worker? n
  let (result, w) ← w.exec options.timeout?.isSome source library? options.module
  let outcome := match result with
    | .ok reply => .ofReply reply w.interrupted
    | .error f => .ofError f
  return (outcome, (e.setWorker n w).afterCall n result)

def run (e : Engine) (options : RunOptions) (source : String) (library? : Option String) :
    Option (Outcome × Engine) :=
  match e.supervisor.live with
  | none => some (.notReady, e)
  | some n => e.runOn n options source library?

/-- Runs programs that were all handed in while the same worker was live, one after the other. -/
def runAll (options : RunOptions) (library? : Option String) (live : Option Nat) :
    List String → Engine → Option (List Outcome × Engine)
  | [], e => some ([], e)
  | source :: more, e => do
    let (o, e) ← match live with
      | none => some (.notReady, e)
      | some n => e.runOn n options source library?
    let (os, e) ← runAll options library? live more e
    return (o :: os, e)

end Engine

end ScriptBench
