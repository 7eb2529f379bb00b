import ScriptBench.Suite.Test

/-! How many tests of a run ended in which way. -/
namespace ScriptBench

structure Summary where
  passed : Nat
  failed : Nat
  errored : Nat
  deriving DecidableEq, Repr

namespace Summary

def empty : Summary := ⟨0, 0, 0⟩

def total (s : Summary) : Nat := s.passed + s.failed + s.errored

def allPassed (s : Summary) : Bool := s.failed == 0 && s.errored == 0

/-- Counts one more test. One that is still pending does not count. -/
def record (s : Summary) : Status → Summary
  | .passed => { s with passed := s.passed + 1 }
  | .failed => { s with failed := s.failed + 1 }
  | .error => { s with errored := s.errored + 1 }
  | .pending => s

end Summary

end ScriptBench
