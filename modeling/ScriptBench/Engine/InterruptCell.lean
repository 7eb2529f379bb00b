/-! The cell through which a call and its watchdog share an interrupt. -/
namespace ScriptBench

/-- The cell holds the number of the pending signal, zero if there is none. -/
structure InterruptCell where
  signal : Nat
  deriving DecidableEq, Repr

namespace InterruptCell

def clear : InterruptCell := ⟨0⟩

/-- The signal that raises an exception in the interpreter. -/
def interrupt : Nat := 2

def isSet (c : InterruptCell) : Bool := c.signal == interrupt

def reset (_ : InterruptCell) : InterruptCell := clear

def trigger (_ : InterruptCell) : InterruptCell := ⟨interrupt⟩

/-- A cell for an interpreter, if calls to it can be interrupted. -/
def allocate? (enabled : Bool) : Option InterruptCell := if enabled then some clear else none

end InterruptCell

end ScriptBench
