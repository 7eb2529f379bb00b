import ScriptBench.Engine.Error

/-! The supervisor of the live worker: there is at most one, and at most one start is under way. -/
namespace ScriptBench

/-- The state of a supervisor. A worker is known by a handle. -/
structure Supervisor (ρ : Type) where
  live : Option ρ
  /-- Whether a start is under way. -/
  inFlight : Bool
  /-- The start is writing the driver program. -/
  loading : Bool
  /-- The start waits for the interpreter. -/
  initializing : Bool
  lastError : Option EngineError
  /-- How many starts there were. -/
  starts : Nat
  deriving DecidableEq, Repr

inductive Admission (ρ : Type) where
  | ready (w : ρ)
  /-- A start is under way. The caller waits for its result. -/
  | joins
  /-- The caller has to start one and waits for the result. -/
  | starts
  deriving DecidableEq, Repr

namespace Supervisor

variable {ρ : Type}

def initial : Supervisor ρ := ⟨none, false, false, false, none, 0⟩

def isReady (s : Supervisor ρ) : Bool := s.live.isSome

def request (s : Supervisor ρ) : Admission ρ × Supervisor ρ :=
  match s.live with
  | some w => (.ready w, s)
  | none =>
    if s.inFlight then (.joins, s)
    else
      (.starts,
        { s with inFlight := true, loading := true, lastError := none, starts := s.starts + 1 })

def installed (s : Supervisor ρ) : Supervisor ρ := { s with loading := false, initializing := true }

def finish (s : Supervisor ρ) (result : Except EngineError ρ) : Supervisor ρ :=
  let s := { s with inFlight := false, loading := false, initializing := false }
  match result with
  | .ok w => { s with live := some w }
  | .error e => { s with lastError := some e }

def forget [DecidableEq ρ] (s : Supervisor ρ) (w : ρ) (reason : EngineError) : Supervisor ρ :=
  if s.live = some w then { s with live := none, lastError := some reason } else s

def take (s : Supervisor ρ) : Option ρ × Supervisor ρ := (s.live, { s with live := none })

end Supervisor

end ScriptBench
