/-! What an engine has to know to start interpreters. -/
namespace ScriptBench

structure EngineConfig where
  /-- The interpreter program. -/
  python : String
  /-- Where the driver program is written to. -/
  directory : String
  /-- How many milliseconds an interpreter has to become ready. -/
  startupBudget : Nat
  /-- Whether calls can be interrupted. -/
  interrupts : Bool
  deriving DecidableEq, Repr

end ScriptBench
