import ScriptBench.CommandLine.Grammar

/-! Commands with their arguments. -/
namespace ScriptBench.CommandLine

inductive TestCommand where
  | add (file : String) (name : Option String)
  | list
  | remove (id : Uuid)
  | run (main : String) (only : Option Uuid) (timeoutMs : Option Nat)
  deriving DecidableEq, Repr

inductive Command where
  | run (file : String) (library : Option String) (timeoutMs : Option Nat)
  | trace (file : String) (library : Option String) (json : Bool) (maxSteps timeoutMs : Option Nat)
  | test (owner : Option String) (command : TestCommand)
  deriving DecidableEq, Repr

def Command.sources : Command → List String
  | .run file library _ => file :: library.toList
  | .trace file library _ _ _ => file :: library.toList
  | .test _ (.add file _) => [file]
  | .test _ (.run main _ _) => [main]
  | .test _ _ => []

structure Invocation where
  verbose : Nat
  quiet : Bool
  command : Command
  deriving DecidableEq, Repr

def Invocation.logFilter (i : Invocation) : String :=
  if i.quiet then "error"
  else match i.verbose with
    | 0 => "warn"
    | 1 => "pyrunner=info,warn"
    | 2 => "pyrunner=debug,info"
    | _ => "trace"

/-- The scans of a command and those below it that have an argument, the lowest first. -/
def holders (scans : List (Level × Scan)) (k : Key) : List Scan :=
  (scans.reverse.map (·.2)).filter (·.has k)

/-- An argument. Where it is given at several levels, the lowest counts. -/
def value? (scans : List (Level × Scan)) (k : Key) : Option String :=
  (holders scans k).head?.bind (·.found.lookup k)

def path (scans : List (Level × Scan)) (k : Key) : String := (value? scans k).getD ""

def number? (scans : List (Level × Scan)) (k : Key) : Option Nat :=
  (value? scans k).bind fun text => Settings.denoted? text.toList

def uuid? (scans : List (Level × Scan)) (k : Key) : Option Uuid :=
  (value? scans k).bind fun text => (Uuid.ofText? text).toOption

def given (scans : List (Level × Scan)) (k : Key) : Bool := (value? scans k).isSome

/-- How often verbosity was asked for at the lowest level that asks for it, at most 255 times. -/
def verbosity (scans : List (Level × Scan)) : Nat :=
  match holders scans .verbose with
  | s :: _ => min 255 (s.found.countP (·.1 == .verbose))
  | [] => 0

def command? (scans : List (Level × Scan)) : Option Command := do
  let (l, _) ← scans.getLast?
  let test (c : TestCommand) : Command := .test (value? scans .owner) c
  match l with
  | .run => some (.run (path scans .file) (value? scans .library) (number? scans .timeoutMs))
  | .trace =>
    some (.trace (path scans .file) (value? scans .library) (given scans .json)
      (number? scans .maxSteps) (number? scans .timeoutMs))
  | .add => some (test (.add (path scans .file) (value? scans .name)))
  | .list => some (test .list)
  | .remove => do return test (.remove (← uuid? scans .id))
  | .runTests =>
    some (test (.run (path scans .main) (uuid? scans .only) (number? scans .timeoutMs)))
  | .root => none
  | .test => none

def Invocation.read (arguments : List String) : Except UsageError Invocation := do
  let scans ← CommandLine.read .root arguments
  match command? scans with
  | some c => return ⟨verbosity scans, given scans .quiet, c⟩
  | none => .error .missingSubcommand

end ScriptBench.CommandLine
