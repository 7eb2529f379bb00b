import ScriptBench.Settings
import ScriptBench.Uuid

/-! The grammar of the command line: commands below commands, each with options and at most one positional
argument. A level of the grammar reads arguments until the name of a command below it. -/
namespace ScriptBench.CommandLine

inductive UsageError where
  | unknownArgument
  | valueValidation
  | invalidValue
  | argumentConflict
  | missingRequiredArgument
  | invalidSubcommand
  | missingSubcommand
  | tooManyValues
  | displayHelp
  | displayVersion
  | displayHelpOnMissingCommand
  deriving DecidableEq, Repr

/-- Help and version were asked for. All else is a failure. -/
def UsageError.exitCode : UsageError → Nat
  | .displayHelp => 0
  | .displayVersion => 0
  | _ => 2

def UsageError.message : UsageError → String
  | .unknownArgument => "unexpected argument"
  | .valueValidation => "invalid value"
  | .invalidValue => "a value is required"
  | .argumentConflict => "arguments that cannot be used together, or one that is given twice"
  | .missingRequiredArgument => "a required argument is missing"
  | .invalidSubcommand => "unrecognized command"
  | .missingSubcommand => "a command is required"
  | .tooManyValues => "a value for an option that takes none"
  | .displayHelp => "help"
  | .displayVersion => "version"
  | .displayHelpOnMissingCommand => "a command is required"

inductive Key where
  | verbose
  | quiet
  | help
  | version
  | library
  | timeoutMs
  | json
  | maxSteps
  | owner
  | name
  | main
  | only
  | file
  | id
  deriving DecidableEq, Repr

namespace Key

def long : Key → String
  | .verbose => "verbose"
  | .quiet => "quiet"
  | .help => "help"
  | .version => "version"
  | .library => "library"
  | .timeoutMs => "timeout-ms"
  | .json => "json"
  | .maxSteps => "max-steps"
  | .owner => "owner"
  | .name => "name"
  | .main => "main"
  | .only => "only"
  | .file => "file"
  | .id => "id"

def short? : Key → Option Char
  | .verbose => some 'v'
  | .quiet => some 'q'
  | .help => some 'h'
  | .version => some 'V'
  | _ => none

def takesValue : Key → Bool
  | .verbose | .quiet | .help | .version | .json => false
  | _ => true

/-- Refuses values that an argument cannot have. Paths are not empty, numbers have 64 bits. -/
def check (k : Key) (value : String) : Except UsageError Unit :=
  match k with
  | .library | .main | .file => if value.isEmpty then .error .invalidValue else .ok ()
  | .timeoutMs | .maxSteps =>
    if (Settings.denoted? value.toList).isSome then .ok () else .error .valueValidation
  | .only | .id => if (Uuid.ofText? value).isOk then .ok () else .error .valueValidation
  | _ => .ok ()

end Key

inductive Level where
  | root
  | run
  | trace
  | test
  | add
  | list
  | remove
  | runTests
  deriving DecidableEq, Repr

namespace Level

def commands : Level → List (String × Level)
  | .root => [("run", .run), ("trace", .trace), ("test", .test)]
  | .test => [("add", .add), ("list", .list), ("ls", .list), ("remove", .remove), ("rm", .remove),
      ("run", .runTests)]
  | _ => []

def below? (l : Level) (name : String) : Option Level := l.commands.lookup name

def rank : Level → Nat
  | .root => 2
  | .test => 1
  | _ => 0

theorem rank_lt_of_mem_commands {l m : Level} {name : String} (h : (name, m) ∈ l.commands) :
    m.rank < l.rank := by
  cases l <;> simp only [commands, List.mem_cons, Prod.mk.injEq, List.not_mem_nil, or_false] at h
  · rcases h with ⟨_, rfl⟩ | ⟨_, rfl⟩ | ⟨_, rfl⟩ <;> decide
  · rcases h with ⟨_, rfl⟩ | ⟨_, rfl⟩ | ⟨_, rfl⟩ | ⟨_, rfl⟩ | ⟨_, rfl⟩ | ⟨_, rfl⟩ <;> decide

theorem rank_lt_of_below? {l m : Level} {name : String} (h : l.below? name = some m) :
    m.rank < l.rank := by
  obtain ⟨before, after, hl, _⟩ := List.lookup_eq_some_iff.1 h
  exact rank_lt_of_mem_commands (by rw [hl]; simp : (name, m) ∈ l.commands)

def hasCommands (l : Level) : Bool := !l.commands.isEmpty

/-- The options of a command. Verbosity can be given everywhere, the owner wherever tests are meant. -/
def options : Level → List Key
  | .root => [.verbose, .quiet, .help, .version]
  | .run => [.library, .timeoutMs, .verbose, .quiet, .help]
  | .trace => [.library, .json, .maxSteps, .timeoutMs, .verbose, .quiet, .help]
  | .test => [.owner, .verbose, .quiet, .help]
  | .add => [.name, .owner, .verbose, .quiet, .help]
  | .list => [.owner, .verbose, .quiet, .help]
  | .remove => [.owner, .verbose, .quiet, .help]
  | .runTests => [.main, .only, .timeoutMs, .owner, .verbose, .quiet, .help]

def positional? : Level → Option Key
  | .run | .trace | .add => some .file
  | .remove => some .id
  | _ => none

def required : Level → List Key
  | .run | .trace | .add => [.file]
  | .remove => [.id]
  | .runTests => [.main]
  | _ => []

end Level

structure Scan where
  /-- The arguments found. An option without a value has the empty one. -/
  found : List (Key × String)
  /-- An argument that is not yet found, since its value may be missing or wrong. -/
  pending : Option (Key × Option String)
  /-- Whether the next argument is the value of the pending option. -/
  awaits : Bool
  /-- Whether only positional arguments follow. -/
  trailing : Bool
  /-- Whether the positional argument was given. -/
  filled : Bool
  deriving DecidableEq, Repr

namespace Scan

def start : Scan := ⟨[], none, false, false, false⟩

def has (s : Scan) (k : Key) : Bool := s.found.any (·.1 == k)

/-- Takes an argument with its value. Only verbosity can be given more than once. -/
def take (s : Scan) (k : Key) (value : String) : Except UsageError Scan := do
  if k ≠ .verbose ∧ s.has k then .error .argumentConflict
  else do
    k.check value
    return { s with found := s.found ++ [(k, value)] }

def settle (s : Scan) : Except UsageError Scan :=
  match s.pending with
  | none => .ok s
  | some (_, none) => .error .invalidValue
  | some (k, some value) => { s with pending := none }.take k value

def react (s : Scan) (k : Key) : Except UsageError Scan := do
  let s ← s.settle
  match k with
  | .help => .error .displayHelp
  | .version => .error .displayVersion
  | k => return { (← s.take k "") with awaits := false }

def reactAll (s : Scan) (l : Level) : List Char → Except UsageError Scan
  | [] => .ok s
  | c :: more =>
    match l.options.find? (·.short? == some c) with
    | some k => do (← s.react k).reactAll l more
    | none => .error .unknownArgument

/-- Takes an option by its name, with the value behind its equals sign if there is one. -/
def takeLong (s : Scan) (l : Level) (name : List Char) (value? : Option String) :
    Except UsageError Scan :=
  match l.options.find? (·.long.toList == name), value? with
  | none, _ => .error .unknownArgument
  | some k, none =>
    if k.takesValue then do return { (← s.settle) with pending := some (k, none), awaits := true }
    else s.react k
  | some k, some value =>
    if k.takesValue then do return { (← (← s.settle).take k value) with awaits := false }
    else .error .tooManyValues

/-- Takes a value of the pending option, or a positional argument. -/
def takeValue (s : Scan) (l : Level) (value : String) : Except UsageError Scan :=
  match s.pending, s.awaits && !s.trailing with
  | some (k, _), true => .ok { s with pending := some (k, some value), awaits := false }
  | _, _ =>
    match l.positional?, s.filled with
    | some k, false => do
      return { (← s.settle) with pending := some (k, some value), awaits := false, filled := true }
    | _, _ =>
      if l.hasCommands ∧ ¬(s.trailing ∧ (value = "help" ∨ (l.below? value).isSome)) then
        .error .invalidSubcommand
      else .error .unknownArgument

def takeArgument (s : Scan) (l : Level) (argument : String) : Except UsageError Scan :=
  if s.trailing then s.takeValue l argument
  else match argument.toList with
    | ['-', '-'] => .ok { s with trailing := true }
    | '-' :: '-' :: text =>
      match text.dropWhile (· != '=') with
      | _ :: value => s.takeLong l (text.takeWhile (· != '=')) (some (String.ofList value))
      | [] => s.takeLong l text none
    | '-' :: c :: text => s.reactAll l (c :: text)
    | _ => s.takeValue l argument

end Scan

def helpOn (l : Level) : List String → UsageError
  | [] => .displayHelp
  | name :: more =>
    match l.below? name with
    | some m => helpOn m more
    | none =>
      if name = "help" ∧ l.hasCommands ∧ more.isEmpty then .displayHelp else .invalidSubcommand

/-- Reads the arguments of a command up to the name of a command below it, which is given with what follows
it. -/
def scan (l : Level) (s : Scan) : List String → Except UsageError (Scan × Option (Level × List String))
  | [] => .ok (s, none)
  | argument :: rest =>
    if !s.trailing && !s.awaits && l.hasCommands && argument == "help" then .error (helpOn l rest)
    else match if s.trailing || s.awaits then none else l.below? argument with
      | some m => .ok (s, some (m, rest))
      | none =>
        match s.takeArgument l argument with
        | .ok s => scan l s rest
        | .error e => .error e

theorem rank_lt_of_scan {l m : Level} {s t : Scan} {arguments rest : List String}
    (h : scan l s arguments = .ok (t, some (m, rest))) : m.rank < l.rank := by
  induction arguments generalizing s with
  | nil => simp [scan] at h
  | cons a more ih =>
    unfold scan at h
    split at h
    · simp at h
    · split at h
      · rename_i hb
        simp only [Except.ok.injEq, Prod.mk.injEq, Option.some.injEq] at h
        split at hb
        · simp at hb
        · exact h.2.1 ▸ Level.rank_lt_of_below? hb
      · split at h
        · exact ih h
        · simp at h

/-- Checks a command as a whole: that a command below it was given, that no arguments exclude each other, and
that none is missing. -/
def validate (l : Level) (s : Scan) (goesOn : Bool) : Except UsageError Unit :=
  if l.hasCommands && !goesOn then
    .error (if s.found.isEmpty then .displayHelpOnMissingCommand else .missingSubcommand)
  else if s.has .quiet && s.has .verbose then .error .argumentConflict
  else if l.required.all s.has then .ok ()
  else .error .missingRequiredArgument

/-- Reads arguments as a command and the commands below it, and gives what was found for each. -/
def read (l : Level) (arguments : List String) : Except UsageError (List (Level × Scan)) :=
  match _h : scan l .start arguments with
  | .error e => .error e
  | .ok (s, none) => do
    let s ← s.settle
    validate l s false
    return [(l, s)]
  | .ok (s, some (m, rest)) => do
    let more ← read m rest
    let s ← s.settle
    validate l s true
    return (l, s) :: more
termination_by l.rank
decreasing_by exact rank_lt_of_scan _h

end ScriptBench.CommandLine
