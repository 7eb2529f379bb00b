import ScriptBench.Script.FunctionName
import ScriptBench.Script.TestScript
import ScriptBench.Suite.Store
import ScriptBench.Suite.Summary
import ScriptBench.Suite.Verdict

/-! The tests of an owner. Every change is saved at once, and a run saves each result before the next test
starts. A save that fails changes nothing else. -/
namespace ScriptBench

/-- What a suite needs of the world around it: a store, a way to run programs, and a clock. -/
structure World (ω : Type) where
  store : Store ω
  /-- Runs a program. There is no outcome if it never ends. -/
  run : (source : String) → ω → Option (Outcome × ω)
  now : ω → Time.Instant

structure Suite where
  owner : String
  tests : List Test
  deriving DecidableEq, Repr

namespace Suite

variable {ω : Type}

def load (world : World ω) (owner : String) (w : ω) : Except StoreError Suite :=
  (world.store.load owner w).map fun tests => ⟨owner, tests⟩

def persist (world : World ω) (s : Suite) (w : ω) : ω := (world.store.save s.owner s.tests w).2

def find? (s : Suite) (id : Uuid) : Option Test := s.tests.find? (·.id == id)

/-- The name of a test that was given none: its function, or its number. -/
def nameFor (s : Suite) (name? function? : Option String) : String :=
  (name?.or function?).getD s!"Test {s.tests.length + 1}"

def newTest (s : Suite) (id : Uuid) (source : String) (name? : Option String) : Test :=
  let function? := Script.functionName? source
  .fresh id (s.nameFor name? function?) function? source

def add (world : World ω) (s : Suite) (id : Uuid) (source : String) (name? : Option String) (w : ω) :
    Test × Suite × ω :=
  let t := s.newTest id source name?
  let s := { s with tests := s.tests ++ [t] }
  (t, s, s.persist world w)

/-- Removes the first test with an identifier, if there is one. -/
def remove (world : World ω) (s : Suite) (id : Uuid) (w : ω) : Option (Test × Suite × ω) := do
  let t ← s.find? id
  let s := { s with tests := s.tests.eraseP (·.id == id) }
  return (t, s, s.persist world w)

def script (t : Test) (main : String) : String :=
  Script.testScript t.identity t.functionName? main t.source

def judged (t : Test) (o : Outcome) (time : Time.Instant) : Test :=
  let (status, output) := t.verdict o
  { t with status := status, output := output, lastRun? := some time }

/-- Runs the test at an index, which has to exist, and saves its result. -/
def runAt (world : World ω) (s : Suite) (index : Nat) (t : Test) (main : String) (w : ω) :
    Option (Test × Suite × ω) := do
  let (o, w) ← world.run (script t main) w
  let t := judged t o (world.now w)
  let s := { s with tests := s.tests.set index t }
  return (t, s, s.persist world w)

/-- Runs the first test with an identifier, if there is one. -/
def run (world : World ω) (s : Suite) (id : Uuid) (main : String) (w : ω) :
    Option (Option Test × Suite × ω) :=
  match s.tests.findIdx? (·.id == id) with
  | none => some (none, s, w)
  | some index =>
    match s.tests[index]? with
    | none => some (none, s, w)
    | some t => (s.runAt world index t main w).map fun (t, s, w) => (some t, s, w)

/-- Runs so many tests from an index on, in order, and counts how they ended. -/
def runFrom (world : World ω) (main : String) :
    (count index : Nat) → Summary → Suite → ω → Option (Summary × Suite × ω)
  | 0, _, summary, s, w => some (summary, s, w)
  | count + 1, index, summary, s, w =>
    match s.tests[index]? with
    | none => some (summary, s, w)
    | some t => do
      let (t, s, w) ← s.runAt world index t main w
      runFrom world main count (index + 1) (summary.record t.status) s w

def runAll (world : World ω) (s : Suite) (main : String) (w : ω) : Option (Summary × Suite × ω) :=
  runFrom world main s.tests.length 0 .empty s w

end Suite

end ScriptBench
