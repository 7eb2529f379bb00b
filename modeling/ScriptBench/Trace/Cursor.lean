import ScriptBench.Trace.Error
import ScriptBench.Trace.Step

/-! Replay of a trace, forward and back. -/
namespace ScriptBench

structure Cursor where
  trace? : Option Trace
  position : Nat
  deriving DecidableEq, Repr

namespace Cursor

def empty : Cursor := ⟨none, 0⟩

/-- Goes to the first step of a new trace. The trace before is dropped, also if there is no new one. -/
def load (_ : Cursor) (result : Except TraceError Trace) : Cursor := ⟨result.toOption, 0⟩

def steps (c : Cursor) : List Step := (c.trace?.map (·.steps)).getD []

def current? (c : Cursor) : Option Step := c.steps[c.position]?

def forward (c : Cursor) : Option Step × Cursor :=
  if c.steps.isEmpty then (none, c)
  else
    let c := { c with position := min (c.position + 1) (c.steps.length - 1) }
    (c.current?, c)

def back (c : Cursor) : Option Step × Cursor :=
  let c := { c with position := c.position - 1 }
  (c.current?, c)

/-- Goes to a step. An index behind the last step moves nothing. -/
def jump (c : Cursor) (index : Nat) : Option Step × Cursor :=
  if index < c.steps.length then
    let c := { c with position := index }
    (c.current?, c)
  else (none, c)

def reset (c : Cursor) : Cursor := { c with position := 0 }

def isAtEnd (c : Cursor) : Bool := c.steps.length ≤ c.position + 1

end Cursor

end ScriptBench
