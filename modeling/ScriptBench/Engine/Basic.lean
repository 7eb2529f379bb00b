import ScriptBench.Engine.Config
import ScriptBench.Engine.Machine
import ScriptBench.Engine.Supervisor
import ScriptBench.Engine.Worker

/-! The engine: a supervisor, the workers that it started, and the machine. Workers are known by their number. -/
namespace ScriptBench

structure Engine where
  config : EngineConfig
  supervisor : Supervisor Nat
  /-- Every worker that became ready, the first one first. -/
  workers : List Worker
  /-- The process of the start that is under way. -/
  starting : Option Process
  machine : Machine

/-- Checks the first line of an interpreter. The answer has to come within so many milliseconds: an interpreter
says at once what it has to say or keeps silent, and nothing comes at once within none. -/
def handshake (budget : Nat) (p : Process) : Except StartFault (String × Process) :=
  if budget = 0 then .error (.late budget)
  else match p.hear with
    | (.line text, p) =>
      match Message.ofLine? text with
      | some (.ready version _) => .ok (version, p)
      | _ => .error (.unexpected text)
    | (.unreadable f, _) => .error (.unreadable f)
    | (.ended _, _) => .error .endedEarly
    | (.silence, _) => .error (.late budget)

namespace Engine

def initial (config : EngineConfig) (machine : Machine) : Engine :=
  ⟨config, .initial, [], none, machine⟩

def worker? (e : Engine) (n : Nat) : Option Worker := e.workers[n]?

def setWorker (e : Engine) (n : Nat) (w : Worker) : Engine :=
  { e with workers := e.workers.set n w }

def finish (e : Engine) (result : Except EngineError Nat) : Except EngineError Nat × Engine :=
  (result, { e with supervisor := e.supervisor.finish result, starting := none })

def fail (e : Engine) (f : StartFault) : Except EngineError Nat × Engine :=
  e.finish (.error (.initialization f))

/-- Writes the driver program and starts an interpreter. There is a result at once only if that fails. -/
def launch (e : Engine) : Option (Except EngineError Nat) × Engine :=
  match e.machine.install e.config.directory with
  | (.error f, m) =>
    let (r, e) := { e with machine := m }.fail (.driverNotWritten e.config.directory f)
    (some r, e)
  | (.ok _, m) =>
    let e := { e with machine := m, supervisor := e.supervisor.installed }
    match e.machine.spawn e.config.python with
    | (.error f, m) =>
      let (r, e) := { e with machine := m }.fail (.notSpawned e.config.python f)
      (some r, e)
    | (.ok p, m) => (none, { e with machine := m, starting := some p })

/-- A caller asks for a worker. One who gets no result waits for the start that is under way. -/
def arrive (e : Engine) : Option (Except EngineError Nat) × Engine :=
  match e.supervisor.request with
  | (.ready n, m) => (some (.ok n), { e with supervisor := m })
  | (.joins, m) => (none, { e with supervisor := m })
  | (.starts, m) => launch { e with supervisor := m }

/-- Waits for the interpreter that was started. Its worker becomes the live one. -/
def complete (e : Engine) : Except EngineError Nat × Engine :=
  match e.starting with
  | none => e.fail .endedEarly
  | some p =>
    match handshake e.config.startupBudget p with
    | .error f => e.fail f
    | .ok (version, p) =>
      let w : Worker := ⟨p, version, InterruptCell.allocate? e.config.interrupts, 1⟩
      { e with workers := e.workers ++ [w] }.finish (.ok e.workers.length)

def acquire (e : Engine) : Except EngineError Nat × Engine :=
  match e.arrive with
  | (some r, e) => (r, e)
  | (none, e) => e.complete

/-- So many callers ask for a worker, one behind the other, before any of them waits. -/
def arriveMany : (count : Nat) → Engine → List (Option (Except EngineError Nat)) × Engine
  | 0, e => ([], e)
  | count + 1, e =>
    let (r, e) := e.arrive
    let (rs, e) := arriveMany count e
    (r :: rs, e)

/-- So many callers ask for a worker together. All who wait get the same result. -/
def acquireMany (e : Engine) (count : Nat) : List (Except EngineError Nat) × Engine :=
  let (rs, e) := arriveMany count e
  if rs.any Option.isNone then
    let (result, e) := e.complete
    (rs.map (·.getD result), e)
  else (rs.filterMap id, e)

def forget (e : Engine) (n : Nat) (reason : EngineError) : Engine :=
  { e with supervisor := e.supervisor.forget n reason }

def shutdown (e : Engine) : Engine :=
  match e.supervisor.take with
  | (none, m) => { e with supervisor := m }
  | (some n, m) =>
    let e := { e with supervisor := m }
    match e.worker? n with
    | some w => e.setWorker n w.shutdown
    | none => e

def received (e : Engine) : List String := e.workers.flatMap (·.process.received)

end Engine

end ScriptBench
