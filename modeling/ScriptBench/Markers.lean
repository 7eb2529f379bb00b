import ScriptBench.Json.Fault

/-! Blocks in the output of a program: a payload between a start line and an end line. The lines around
blocks are ordinary output. -/
namespace ScriptBench

open Text

/-- The lines that stand around the payloads of one consumer. -/
structure Markers where
  /-- Who reads the payloads. -/
  consumer : String
  start : String
  stop : String
  deriving DecidableEq, Repr

namespace Markers

def trace : Markers := ⟨"trace", "__PYRUNNER_TRACE_BEGIN__", "__PYRUNNER_TRACE_END__"⟩

def test : Markers := ⟨"test result", "__PYRUNNER_TEST_BEGIN__", "__PYRUNNER_TEST_END__"⟩

def wrap (m : Markers) (payload : String) : String :=
  m.start ++ "\n" ++ payload ++ "\n" ++ m.stop ++ "\n"

/-- Whether a line starts a block. Carriage returns at its end do not count. -/
def isStart (m : Markers) (line : List Char) : Bool := dropReturns line == m.start.toList

def isStop (m : Markers) (line : List Char) : Bool := dropReturns line == m.stop.toList

/-- The lines in front of the first end line, if there is one. -/
def body? (m : Markers) : List (List Char) → Option (List (List Char))
  | [] => none
  | line :: more => if m.isStop line then some [] else (m.body? more).map (line :: ·)

/-- The bodies of all blocks: one for each start line that an end line follows. -/
def bodies (m : Markers) : List (List Char) → List (List (List Char))
  | [] => []
  | line :: more => (if m.isStart line then (m.body? more).toList else []) ++ m.bodies more

end Markers

inductive PayloadError where
  | missingMarkers (consumer : String)
  | invalidJson (consumer reason : String)
  | wrongName (consumer expected found : String)
  deriving DecidableEq, Repr

def PayloadError.message : PayloadError → String
  | .missingMarkers consumer => s!"could not find {consumer} markers in program output"
  | .invalidJson consumer reason => s!"failed to parse {consumer} payload: {reason}"
  | .wrongName consumer expected found =>
    s!"{consumer} payload belongs to " ++ "'" ++ found ++ "', expected '" ++ expected ++ "'"

/-- The value of the last body that can be read, else why the last body cannot be read. -/
def Markers.decode (m : Markers) (read : String → Except Json.ReadError α) (output : String) :
    Except PayloadError α :=
  let results := (m.bodies (lines output.toList)).map fun body => read (String.ofList (unlines body))
  match results.reverse.findSome? Except.toOption, results.getLast? with
  | some a, _ => .ok a
  | none, some (.error e) => .error (.invalidJson m.consumer e.message)
  | none, _ => .error (.missingMarkers m.consumer)

end ScriptBench
