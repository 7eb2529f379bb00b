import ScriptBench.Execution.Run
import ScriptBench.Suite.Suite
import ScriptBench.Trace.Recording

/-! The bench: an engine, the shelves of a store in memory, and a clock. A suite can run on it. -/
namespace ScriptBench

structure Bench where
  engine : Engine
  shelves : Shelves
  clock : Time.Instant

inductive Keeping where
  | memory
  | files (f : Folder)
  deriving DecidableEq, Repr

namespace Bench

def disk (b : Bench) : Disk := b.engine.machine.disk

def setDisk (b : Bench) (d : Disk) : Bench :=
  { b with engine := { b.engine with machine := { b.engine.machine with disk := d } } }

def store : Keeping → Store Bench
  | .memory =>
    { load := fun owner b => Store.memory.load owner b.shelves
      save := fun owner tests b =>
        let (r, shelves) := Store.memory.save owner tests b.shelves
        (r, { b with shelves := shelves }) }
  | .files f =>
    { load := fun owner b => f.load owner b.disk
      save := fun owner tests b =>
        let (r, d) := f.save owner tests b.disk
        (r, b.setDisk d) }

def run (options : RunOptions) (source : String) (library? : Option String) (b : Bench) :
    Option (Outcome × Bench) :=
  (b.engine.run options source library?).map fun (o, e) => (o, { b with engine := e })

/-- The world of a suite. Tests are run without library code. -/
def world (k : Keeping) (options : RunOptions) : World Bench where
  store := store k
  run source b := b.run options source none
  now b := b.clock

end Bench

end ScriptBench
