import ScriptBench.Engine.DriverFile
import ScriptBench.Engine.Process

/-! The machine on which interpreters run: its disk, and the behaviour of each interpreter that is started. -/
namespace ScriptBench

structure Machine where
  disk : Disk
  /-- The directory that relative paths are seen from. -/
  current : Location
  /-- The directories in which programs are searched for by name. -/
  programPath : List Location
  /-- Why no program can be started at all, if so. -/
  refusal? : Option OsError
  /-- The behaviour of the interpreter that is started next, and of those behind it. -/
  supply : Nat → Interpreter
  /-- How many interpreters were started. -/
  started : Nat

namespace Machine

def path (m : Machine) (text : String) : Path := ⟨m.current, text⟩

def startable (m : Machine) (p : Path) : Except OsError Unit := do
  match ← m.disk.look p with
  | .program => return ()
  | _ => .error .permissionDenied

/-- Whether the search for a program goes on behind a directory in which it cannot be started. -/
def passesOver (e : OsError) : Bool := e == .notFound || e == .notDirectory || e == .permissionDenied

def search (m : Machine) (name : String) : List Location → Except OsError Unit
  | [] => .error .notFound
  | directory :: more =>
    match m.startable ⟨directory, name⟩ with
    | .ok _ => .ok ()
    | .error e =>
      if !passesOver e then .error e
      else match m.search name more with
        | .ok _ => .ok ()
        | .error f => .error (if e = .permissionDenied && passesOver f then e else f)

/-- Finds a program: a name with a slash is a path, any other is searched for. -/
def findProgram (m : Machine) (program : String) : Except OsError Unit :=
  if program.isEmpty then .error .notFound
  else if program.contains '\x00' then .error .nulInProgram
  else if program.contains '/' then m.startable (m.path program)
  else m.search program m.programPath

def spawn (m : Machine) (program : String) : Except OsError Process × Machine :=
  match m.findProgram program, m.refusal? with
  | .error e, _ => (.error e, m)
  | .ok _, some e => (.error e, m)
  | .ok _, none => (.ok (Process.start (m.supply m.started)), { m with started := m.started + 1 })

def install (m : Machine) (directory : String) : Except OsError Path × Machine :=
  let (r, disk) := DriverFile.install (m.path directory) 1 m.disk
  (r, { m with disk := disk })

end Machine

end ScriptBench
