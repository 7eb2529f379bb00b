import ScriptBench.Program

/-! The program on a real machine. The files that a call needs are read into a disk, the call runs on it, and
what it changed is written back. Processes cannot be started here, so no interpreter becomes ready. -/
namespace ScriptBench.Main

def watchedVariables : List String :=
  Settings.recognised ++ ["HOME", "XDG_CONFIG_HOME", "XDG_CACHE_HOME", "XDG_DATA_HOME", "TMPDIR"]

def environment : IO (List (String × String)) := do
  let values ← watchedVariables.mapM fun name => do return (← IO.getEnv name).map (name, ·)
  return values.filterMap id

def absolute (p : Location) : String := "/" ++ "/".intercalate p

def entryAt (p : Location) : IO (Option Entry) := do
  try
    let bytes ← IO.FS.readBinFile (absolute p)
    return some (.file bytes.data.toList)
  catch e =>
    match e with
    | .inappropriateType .. => return some .directory
    | _ => return none

def readInto (d : Disk) (p : Path) : IO Disk := do
  let onward (state : Disk × Location) (part : String) : IO (Disk × Location) := do
    let (d, here) := state
    let next := Path.follow here part
    if (d.find? next).isSome then return (d, next)
    match ← entryAt next with
    | some e => return (d.plant next e, next)
    | none => return (d, next)
  return (← p.parts.foldlM onward (d, p.origin)).1

/-- Writes the entries of a disk that another one does not have. -/
def writeBack (old new : Disk) : IO Unit := do
  for ((_, p), e) in new.entries.reverse do
    if old.find? p ≠ some e then
      match e with
      | .file bytes => do
        IO.FS.writeBinFile (absolute p ++ ".part") ⟨bytes.toArray⟩
        IO.FS.rename (absolute p ++ ".part") (absolute p)
      | .directory => IO.FS.createDirAll (absolute p)
      | _ => pure ()

partial def readAll (input : IO.FS.Stream) (before : ByteArray) : IO ByteArray := do
  let more ← input.read 65536
  if more.isEmpty then return before else readAll input (before ++ more)

def randomBits : IO Nat := do
  let bytes ← IO.getRandomBytes 16
  return bytes.data.foldl (fun n b => 256 * n + b.toNat) 0

/-- No interpreter is ever started, so its behaviour does not matter. -/
def nothing : Interpreter := ⟨⟨false, [], .hangs⟩, fun _ => ⟨false, [], .hangs⟩⟩

def run (arguments : List String) : IO UInt32 := do
  let input ← IO.getStdin
  let output ← IO.getStdout
  let call : Call :=
    { arguments := arguments
      environment := ← environment
      userHome := some "/"
      input := []
      colour := ← output.isTty
      newId := .version4 (← randomBits)
      clock := ⟨⟨1970, 1, 1⟩, 0, 0, 0⟩ }
  let here : Path := ⟨[], (← IO.currentDir).toString⟩
  let current := here.parts.foldl Path.follow here.origin
  let machine : Machine := ⟨.empty, current, [], some .notImplemented, fun _ => nothing, 0⟩
  let machine := { machine with disk := machine.disk.plant current .directory }
  let places := Places.ofEnvironment call.environment call.userHome
  let disk ← readInto machine.disk (machine.path places.settingsFile)
  let machine := { machine with disk := disk }
  let disk ← (call.files machine).foldlM readInto machine.disk
  let machine := { machine with disk := disk }
  let bytes ← if call.readsInput then readAll input .empty else pure .empty
  match { call with input := bytes.data.toList }.run machine with
  | none => return 1
  | some (ended, engine) =>
    writeBack disk engine.machine.disk
    output.putStr ended.stdout
    (← IO.getStderr).putStr ended.stderr
    return ended.exitCode.toUInt32

end ScriptBench.Main

def main (arguments : List String) : IO UInt32 := ScriptBench.Main.run arguments
