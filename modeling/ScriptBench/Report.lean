import ScriptBench.Execution.Outcome
import ScriptBench.Suite.Summary
import ScriptBench.Trace.Step

/-! Reports for a terminal: outcomes, traces and tests, in colour or plain. -/
namespace ScriptBench.Report

open Decimal (digitsOf)

inductive Ink where
  | green
  | red
  | yellow
  | cyan
  | dim
  deriving DecidableEq, Repr

def escapeSequence (code : List Char) : List Char := '\x1b' :: '[' :: code ++ ['m']

def Ink.on : Ink → List Char
  | .green => escapeSequence ['3', '2']
  | .red => escapeSequence ['3', '1']
  | .yellow => escapeSequence ['3', '3']
  | .cyan => escapeSequence ['3', '6']
  | .dim => escapeSequence ['2']

def Ink.off : Ink → List Char
  | .dim => escapeSequence ['0']
  | _ => escapeSequence ['3', '9']

/-- A text in a colour, or as it is if there is no colour. -/
def paint (colour : Bool) (ink : Ink) (text : List Char) : List Char :=
  if colour then ink.on ++ text ++ ink.off else text

def padRight (width : Nat) (text : List Char) : List Char :=
  text ++ List.replicate (width - text.length) ' '

def padLeft (width : Nat) (text : List Char) : List Char :=
  List.replicate (width - text.length) ' ' ++ text

def statusInk : Status → Ink
  | .passed => .green
  | .failed => .red
  | .error => .yellow
  | .pending => .dim

def status (colour : Bool) (s : Status) : List Char := paint colour (statusInk s) s.label.toList

def part (present : Bool) (text : List Char) : List Char := if present then text else []

/-- What the program printed, its errors, the value of its last expression, and what went wrong. -/
def outcomeChars (colour : Bool) (o : Outcome) : List Char :=
  o.stdout.toList
    ++ part (o.stderr ≠ "") (paint colour .yellow o.stderr.toList)
    ++ (match o.value? with
        | some v => paint colour .cyan ('=' :: '>' :: ' ' :: v.toList) ++ ['\n']
        | none => [])
    ++ (match o.failure? with
        | some f => part (f.traceback ≠ "") (paint colour .dim f.traceback.toList)
            ++ paint colour .red f.text.toList ++ ['\n']
        | none => [])

/-- A variable and its value. One that changed is coloured. -/
def variableChars (colour : Bool) (changed : Names) (name value : String) : List Char :=
  let pair := name.toList ++ '=' :: value.toList
  if changed.contains name then paint colour .green pair else pair

/-- One line for a step: its number, its line, and its variables behind two blanks for every active call. -/
def stepChars (colour : Bool) (s : Step) : List Char :=
  let line := if s.isEnd then ['e', 'n', 'd'] else 'L' :: digitsOf s.line.toNat
  let bindings := s.bindings.entries.map fun e => variableChars colour s.changed e.1 e.2
  padLeft 4 (digitsOf s.index.toNat) ++ ' ' :: padRight 5 (paint colour .cyan line)
    ++ ' ' :: List.replicate (2 * s.depth.toNat) ' ' ++ Json.separate [' '] bindings ++ ['\n']

def traceChars (colour : Bool) (t : Trace) : List Char :=
  t.steps.flatMap (stepChars colour)
    ++ part t.truncated (paint colour .yellow "(trace truncated)".toList ++ ['\n'])
    ++ part (t.output ≠ "") ("--- output ---\n".toList ++ t.output.toList)
    ++ (match t.error? with
        | some e => paint colour .red e.toList ++ ['\n']
        | none => [])

def testLine (colour : Bool) (t : Test) : List Char :=
  t.id.text.toList ++ ' ' :: ' ' :: padRight 8 (status colour t.status) ++ ' ' :: t.displayName.toList
    ++ ['\n']

/-- How a test ended. Below it stands its output, unless it passed. -/
def testChars (colour : Bool) (t : Test) : List Char :=
  status colour t.status ++ ' ' :: t.displayName.toList ++ '\n'
    :: part (t.status ≠ .passed)
        ((Text.lines t.output.toList).flatMap fun line => [' ', ' ', ' ', ' '] ++ line ++ ['\n'])

def summaryChars (colour : Bool) (s : Summary) : List Char :=
  paint colour (if s.allPassed then .green else .red)
    (digitsOf s.passed ++ " passed, ".toList ++ digitsOf s.failed ++ " failed, ".toList
      ++ digitsOf s.errored ++ " errors".toList) ++ ['\n']

def outcome (colour : Bool) (o : Outcome) : String := String.ofList (outcomeChars colour o)

def trace (colour : Bool) (t : Trace) : String := String.ofList (traceChars colour t)

def tests (colour : Bool) (ts : List Test) : String := String.ofList (ts.flatMap (testLine colour))

def test (colour : Bool) (t : Test) : String := String.ofList (testChars colour t)

def summary (colour : Bool) (s : Summary) : String := String.ofList (summaryChars colour s)

end ScriptBench.Report
