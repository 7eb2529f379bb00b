import ScriptBench.Bench
import ScriptBench.CommandLine.Command
import ScriptBench.Report
import ScriptBench.Settings

/-! The program: it reads its arguments and settings, carries out one command, and ends with an exit code. -/
namespace ScriptBench

open CommandLine (Command TestCommand Invocation UsageError)

structure Call where
  arguments : List String
  environment : List (String × String)
  /-- The home directory in the user database, if there is one. -/
  userHome : Option String
  input : List UInt8
  /-- Whether reports are in colour. -/
  colour : Bool
  /-- The identifier of a test that is added. -/
  newId : Uuid
  clock : Time.Instant

inductive ProgramError where
  | notRead (path : String) (e : OsError)
  | notText (path : String)
  | inputNotText
  | notStarted (e : EngineError)
  | notTraced (e : TraceError)
  | store (e : StoreError)
  | noSuchTest (id : Uuid)
  deriving DecidableEq, Repr

namespace ProgramError

def chain : ProgramError → List String
  | .notRead path e => [s!"reading {path}", e.message]
  | .notText path => [s!"reading {path}", "stream did not contain valid UTF-8"]
  | .inputNotText => ["stream did not contain valid UTF-8"]
  | .notStarted e => ["starting the Python runtime", e.message]
  | .notTraced e => [e.message]
  | .store e => e.chain
  | .noSuchTest id => [s!"no test with id {id.text}"]

def indented (text : String) : String :=
  String.ofList ([' ', ' ', ' ', ' '] ++ text.toList.flatMap fun c =>
    if c = '\n' then ['\n', ' ', ' ', ' ', ' '] else [c])

def message (e : ProgramError) : String :=
  match e.chain with
  | [] => ""
  | [what] => s!"Error: {what}\n"
  | what :: why :: _ => s!"Error: {what}\n\nCaused by:\n{indented why}\n"

end ProgramError

inductive Ended where
  | usage (e : UsageError)
  | done (exitCode : Nat) (printed : String)
  | failed (e : ProgramError)
  deriving DecidableEq, Repr

namespace Ended

def version : String := "pyrunner 0.1.0\n"

def help : String :=
  String.join
    ["Usage: pyrunner [-v]... [-q] COMMAND\n\n",
     "run FILE [--library FILE] [--timeout-ms MS]\n",
     "trace FILE [--library FILE] [--json] [--max-steps N] [--timeout-ms MS]\n",
     "test [--owner OWNER] add FILE [--name NAME]\n",
     "test [--owner OWNER] list\n",
     "test [--owner OWNER] remove ID\n",
     "test [--owner OWNER] run --main FILE [--only ID] [--timeout-ms MS]\n"]

def exitCode : Ended → Nat
  | .usage e => e.exitCode
  | .done code _ => code
  | .failed _ => 1

def stdout : Ended → String
  | .usage .displayVersion => version
  | .usage .displayHelp => help
  | .usage _ => ""
  | .done _ printed => printed
  | .failed _ => ""

def stderr : Ended → String
  | .failed e => e.message
  | .usage e => if e.exitCode = 0 then "" else s!"error: {e.message}\n\n{help}"
  | .done _ _ => ""

end Ended

structure Desk where
  bench : Bench
  /-- What is left of the input. -/
  input : List UInt8

/-- A step of a command. It may fail, and it may never end. -/
abbrev Act := ExceptT ProgramError (StateT Desk Option)

def exitCodeOf (success : Bool) : Nat := if success then 0 else 1

def isInput (path : String) : Bool :=
  match path.splitOn "/" with
  | "-" :: more => more.all fun name => name == "" || name == "."
  | _ => false

def readSource (path : String) : Act String := do
  let d ← get
  if isInput path then
    set { d with input := [] }
    match Text.decodeUtf8 d.input with
    | .ok text => return text
    | .error _ => throw .inputNotText
  else
    let machine := d.bench.engine.machine
    match machine.disk.read (machine.path path) with
    | .error e => throw (.notRead path e)
    | .ok bytes =>
      match Text.decodeUtf8 bytes with
      | .ok text => return text
      | .error _ => throw (.notText path)

def readOptional (path? : Option String) : Act (Option String) :=
  match path? with
  | none => return none
  | some path => some <$> readSource path

def onBench (f : Bench → Option (α × Bench)) : Act α :=
  ExceptT.mk fun d => (f d.bench).map fun (a, b) => (.ok a, { d with bench := b })

def startEngine : Act Unit := do
  let r ← onBench fun b =>
    let (r, e) := b.engine.acquire
    some (r, { b with engine := e })
  match r with
  | .ok _ => return ()
  | .error e => throw (.notStarted e)

/-- The time budget of a call: the one that the command line gives, else the one of the settings. Zero is
none. -/
def callBudget (s : Settings) : Option Nat → Option Nat
  | some ms => Settings.budget? ms
  | none => s.timeout?

/-- How many steps are recorded: as many as the command line says, else as the settings say. -/
def stepLimit (s : Settings) (asked : Option Nat) : Nat := asked.getD s.maxTraceSteps

def optionsFor (s : Settings) (timeoutMs : Option Nat) : RunOptions := ⟨callBudget s timeoutMs, s.libraryModule⟩

abbrev Result := Bool × String

def runCommand (colour : Bool) (s : Settings) (file : String) (library? : Option String)
    (timeoutMs : Option Nat) : Act Result := do
  let source ← readSource file
  let library? ← readOptional library?
  startEngine
  let o ← onBench (Bench.run (optionsFor s timeoutMs) source library?)
  return (o.success, Report.outcome colour o)

def traceCommand (colour : Bool) (s : Settings) (file : String) (library? : Option String) (json : Bool)
    (maxSteps timeoutMs : Option Nat) : Act Result := do
  let source ← readSource file
  let library? ← readOptional library?
  startEngine
  let options : TraceOptions := ⟨optionsFor s timeoutMs, stepLimit s maxSteps⟩
  let r ← onBench fun b => (b.engine.trace options source library?).map fun (r, e) =>
    (r, { b with engine := e })
  match r with
  | .error e => throw (.notTraced e)
  | .ok t => return (t.success, if json then t.toJson.pretty ++ "\n" else Report.trace colour t)

/-- Runs tests of a suite: the one with an identifier, or all. -/
def runTests (colour : Bool) (world : World Bench) (suite : Suite) (main : String) (only : Option Uuid) :
    Act Result := do
  let main ← readSource main
  startEngine
  match only with
  | some id =>
    let t? ← onBench fun b => (suite.run world id main b).map fun (t?, _, b) => (t?, b)
    match t? with
    | some t => return (t.status == .passed, Report.test colour t)
    | none => throw (.noSuchTest id)
  | none =>
    let (summary, suite) ← onBench fun b =>
      (suite.runAll world main b).map fun (summary, suite, b) => ((summary, suite), b)
    let reports := String.join (suite.tests.map (Report.test colour))
    return (summary.allPassed, reports ++ Report.summary colour summary)

def testCommand (colour : Bool) (s : Settings) (folder : Folder) (newId : Uuid) (owner : String)
    (c : TestCommand) : Act Result := do
  let timeoutMs := match c with
    | .run _ _ timeoutMs => timeoutMs
    | _ => none
  let world := Bench.world (.files folder) (optionsFor s timeoutMs)
  match Suite.load world owner (← get).bench with
  | .error e => throw (.store e)
  | .ok suite =>
    match c with
    | .add file name => do
      let source ← readSource file
      let t ← onBench fun b =>
        let (t, _, b) := suite.add world newId source name b
        some (t, b)
      return (true, t.id.text ++ "  " ++ t.displayName ++ "\n")
    | .list =>
      if suite.tests.isEmpty then return (true, s!"No tests for {owner}\n")
      else return (true, Report.tests colour suite.tests)
    | .remove id => do
      let found ← onBench fun b =>
        match suite.remove world id b with
        | some (_, _, b) => some (true, b)
        | none => some (false, b)
      if found then return (true, "") else throw (.noSuchTest id)
    | .run main only _ => runTests colour world suite main only

def command (call : Call) (s : Settings) (places : Places) : Command → Act Result
  | .run file library? timeoutMs => runCommand call.colour s file library? timeoutMs
  | .trace file library? json maxSteps timeoutMs =>
    traceCommand call.colour s file library? json maxSteps timeoutMs
  | .test owner c => do
    let d ← get
    let folder : Folder := ⟨d.bench.engine.machine.path (s.storeDirectory places)⟩
    testCommand call.colour s folder call.newId (owner.getD s.owner) c

/-- The settings of a call, from its environment and the settings file. -/
def Call.settings (call : Call) (m : Machine) : Settings × Places :=
  let places := Places.ofEnvironment call.environment call.userHome
  let file := (m.disk.read (m.path places.settingsFile)).toOption
  (Settings.load places file call.environment, places)

/-- The files that a call reads beside its settings file. -/
def Call.files (call : Call) (m : Machine) : List Path :=
  let (s, places) := call.settings m
  let driver := (m.path (s.driverDirectory places)).join DriverFile.name
  match Invocation.read call.arguments with
  | .error _ => []
  | .ok i =>
    let sources := (i.command.sources.filter fun p => !isInput p).map m.path
    match i.command with
    | .test owner _ =>
      driver :: Folder.file ⟨m.path (s.storeDirectory places)⟩ (owner.getD s.owner) :: sources
    | _ => driver :: sources

def Call.readsInput (call : Call) : Bool :=
  match Invocation.read call.arguments with
  | .error _ => false
  | .ok i => i.command.sources.any isInput

/-- Runs the program on a machine. There is no end if an interpreter keeps silent for ever. -/
def Call.run (call : Call) (m : Machine) : Option (Ended × Engine) := do
  let (s, places) := call.settings m
  let engine := Engine.initial (s.engine places) m
  match Invocation.read call.arguments with
  | .error e => return (.usage e, engine)
  | .ok i =>
    let desk : Desk := ⟨⟨engine, .empty, call.clock⟩, call.input⟩
    let (result, desk) ← command call s places i.command |>.run |>.run desk
    let ended := match result with
      | .ok (success, printed) => .done (exitCodeOf success) printed
      | .error e => .failed e
    return (ended, desk.bench.engine.shutdown)

end ScriptBench
