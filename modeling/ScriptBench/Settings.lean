import ScriptBench.Data.Sorted
import ScriptBench.Engine.Config
import ScriptBench.Files.Path
import ScriptBench.Json.Scalar
import ScriptBench.Text.Blank
import ScriptBench.Text.Utf8

/-! Settings. They come in layers: what was set by hand, recognised variables of the environment, the lines of
a settings file, and defaults. -/
namespace ScriptBench

open Text

structure Settings where
  values : Dictionary String
  deriving DecidableEq, Repr

/-- Where the directories for settings, caches and data are. -/
structure Places where
  config : String
  cache : String
  data : String
  deriving DecidableEq, Repr

/-- The home directory: the one that the environment gives, or else the one of the user database, if there is one. -/
def homeDirectory? (environment : List (String × String)) (userHome : Option String) : Option String :=
  match environment.lookup "HOME" with
  | some home => if home.isEmpty then userHome else some home
  | none => userHome

def temporaryDirectory (environment : List (String × String)) : String := (environment.lookup "TMPDIR").getD "/tmp"

/-- Where the directories are. A directory from the environment has to be absolute. Where there is no home directory,
caches and data are temporary files. -/
def Places.ofEnvironment (environment : List (String × String)) (userHome : Option String) : Places :=
  match homeDirectory? environment userHome with
  | some home =>
    let place (name fallback : String) := match environment.lookup name with
      | some p => if p.startsWith "/" then p else joinPath home fallback
      | none => joinPath home fallback
    ⟨place "XDG_CONFIG_HOME" ".config", place "XDG_CACHE_HOME" ".cache", place "XDG_DATA_HOME" ".local/share"⟩
  | none => ⟨"~/.config", temporaryDirectory environment, temporaryDirectory environment⟩

def Places.settingsFile (p : Places) : String := joinPath p.config "pyrunner/.pyrunnerrc"

namespace Settings

def recognised : List String :=
  ["PYRUNNER_PYTHON",
   "PYRUNNER_TIMEOUT_MS",
   "PYRUNNER_STARTUP_TIMEOUT_MS",
   "PYRUNNER_INTERRUPTS",
   "PYRUNNER_RUNTIME_DIR",
   "PYRUNNER_TEST_STORE_PATH",
   "PYRUNNER_MAX_TRACE_STEPS",
   "PYRUNNER_LIBRARY_MODULE",
   "PYRUNNER_OWNER"]

def defaultDirectory (p : Places) : String := joinPath p.cache "pyrunner/runtime"

def defaultStore (p : Places) : String := joinPath p.data "pyrunner/tests"

def defaults (p : Places) : List (String × String) :=
  [("PYRUNNER_RUNTIME_DIR", defaultDirectory p),
   ("PYRUNNER_TEST_STORE_PATH", defaultStore p),
   ("PYRUNNER_TIMEOUT_MS", "5000"),
   ("PYRUNNER_STARTUP_TIMEOUT_MS", "15000"),
   ("PYRUNNER_MAX_TRACE_STEPS", "1000"),
   ("PYRUNNER_PYTHON", "python3"),
   ("PYRUNNER_LIBRARY_MODULE", "library"),
   ("PYRUNNER_OWNER", "default"),
   ("PYRUNNER_INTERRUPTS", "true")]

/-! Layers -/

/-- Bytes split behind every line feed, which is dropped. -/
def byteLines : List UInt8 → List (List UInt8)
  | [] => []
  | b :: rest =>
    if b = 10 then [] :: byteLines rest
    else match byteLines rest with
      | [] => [[b]]
      | line :: more => (b :: line) :: more

def textLines (bytes : List UInt8) : List String :=
  ((byteLines bytes).map decodeUtf8).takeWhile (·.isOk) |>.filterMap (·.toOption)

/-- What a line assigns: a name and a value around its first equals sign, without blanks around them. Blank
lines, comments and other lines assign nothing. -/
def assignment? (line : String) : Option (String × String) :=
  let cs := trim line.toList
  match cs with
  | [] => none
  | '#' :: _ => none
  | cs =>
    match cs.dropWhile (· != '=') with
    | '=' :: value =>
      some (String.ofList (trim (cs.takeWhile (· != '='))), String.ofList (trim value))
    | _ => none

def get? (s : Settings) (name : String) : Option String := s.values.get? name

def set (s : Settings) (name value : String) : Settings := ⟨s.values.insert name value⟩

def overlay (s : Settings) (layer : List (String × String)) : Settings :=
  layer.foldl (fun s e => s.set e.1 e.2) s

/-- The defaults under the assignments of a settings file. -/
def ofFile (p : Places) (file : Option (List UInt8)) : Settings :=
  (Settings.overlay ⟨.empty⟩ (defaults p)).overlay ((textLines (file.getD [])).filterMap assignment?)

/-- The settings of a file under the recognised variables of the environment. -/
def load (p : Places) (file : Option (List UInt8)) (environment : List (String × String)) : Settings :=
  (ofFile p file).overlay (environment.filter fun e => recognised.contains e.1)

/-! Values -/

/-- The number below `2 ^ 64` that a text denotes: a plus sign, which may be missing, and digits. -/
def denoted? (text : List Char) : Option Nat :=
  let digits := match text with
    | '+' :: rest => rest
    | rest => rest
  if digits.isEmpty || !digits.all Char.isDigit then none
  else
    let n := digits.foldl (fun n c => 10 * n + Json.digit c) 0
    if n < UInt64.size then some n else none

def getNumber? (s : Settings) (name : String) : Option Nat := (s.get? name).bind (denoted? ·.toList)

/-- Whether a text says yes: `1`, or `true` in letters of either case. -/
def isYes (text : String) : Bool := text == "1" || text.map Char.toLower == "true"

def getBool (s : Settings) (name : String) : Bool := (s.get? name).elim false isYes

def python (s : Settings) : String := (s.get? "PYRUNNER_PYTHON").getD "python3"

def budget? (milliseconds : Nat) : Option Nat := if milliseconds = 0 then none else some milliseconds

/-- How many milliseconds a call may take, if there is a limit. -/
def timeout? (s : Settings) : Option Nat := budget? ((s.getNumber? "PYRUNNER_TIMEOUT_MS").getD 5000)

def startupTimeout (s : Settings) : Nat := (s.getNumber? "PYRUNNER_STARTUP_TIMEOUT_MS").getD 15000

def maxTraceSteps (s : Settings) : Nat := (s.getNumber? "PYRUNNER_MAX_TRACE_STEPS").getD 1000

/-- The name under which library code can be imported. A blank one does not count. -/
def libraryModule (s : Settings) : String :=
  match s.get? "PYRUNNER_LIBRARY_MODULE" with
  | some name => if (trim name.toList).isEmpty then "library" else name
  | none => "library"

def owner (s : Settings) : String := (s.get? "PYRUNNER_OWNER").getD "default"

def driverDirectory (s : Settings) (p : Places) : String :=
  (s.get? "PYRUNNER_RUNTIME_DIR").getD (defaultDirectory p)

def storeDirectory (s : Settings) (p : Places) : String :=
  (s.get? "PYRUNNER_TEST_STORE_PATH").getD (defaultStore p)

def engine (s : Settings) (p : Places) : EngineConfig :=
  ⟨s.python, s.driverDirectory p, s.startupTimeout, s.getBool "PYRUNNER_INTERRUPTS"⟩

end Settings

end ScriptBench
