import ScriptBench.Files.OsError
import ScriptBench.Text.Utf8

/-! Failures of the engine itself: no interpreter, one that does not start, one that goes away, and one that
refuses a request. -/
namespace ScriptBench

inductive ExitStatus where
  | code (n : Nat)
  | signal (n : Nat)
  deriving DecidableEq, Repr

namespace ExitStatus

def signalName : Nat → Option String
  | 1 => some "SIGHUP"
  | 2 => some "SIGINT"
  | 3 => some "SIGQUIT"
  | 4 => some "SIGILL"
  | 5 => some "SIGTRAP"
  | 6 => some "SIGABRT"
  | 7 => some "SIGBUS"
  | 8 => some "SIGFPE"
  | 9 => some "SIGKILL"
  | 10 => some "SIGUSR1"
  | 11 => some "SIGSEGV"
  | 12 => some "SIGUSR2"
  | 13 => some "SIGPIPE"
  | 14 => some "SIGALRM"
  | 15 => some "SIGTERM"
  | 16 => some "SIGSTKFLT"
  | 17 => some "SIGCHLD"
  | 18 => some "SIGCONT"
  | 19 => some "SIGSTOP"
  | 20 => some "SIGTSTP"
  | 21 => some "SIGTTIN"
  | 22 => some "SIGTTOU"
  | 23 => some "SIGURG"
  | 24 => some "SIGXCPU"
  | 25 => some "SIGXFSZ"
  | 26 => some "SIGVTALRM"
  | 27 => some "SIGPROF"
  | 28 => some "SIGWINCH"
  | 29 => some "SIGIO"
  | 30 => some "SIGPWR"
  | 31 => some "SIGSYS"
  | _ => none

def text : ExitStatus → String
  | .code n => s!"exit status: {n}"
  | .signal n =>
    match signalName n with
    | some name => s!"signal: {n} ({name})"
    | none => s!"signal: {n}"

end ExitStatus

inductive StartFault where
  | driverNotWritten (directory : String) (e : OsError)
  | notSpawned (program : String) (e : OsError)
  /-- No line came within so many milliseconds. -/
  | late (budget : Nat)
  | endedEarly
  | unreadable (f : Text.Utf8Fault)
  | unexpected (line : String)
  | other (reason : String)
  deriving DecidableEq, Repr

def StartFault.reason : StartFault → String
  | .driverNotWritten directory e => s!"writing bootstrap module to {directory}: {e.message}"
  | .notSpawned program e => s!"failed to spawn {program}: {e.message}"
  | .late budget => s!"interpreter did not become ready within {budget} ms"
  | .endedEarly => "interpreter exited before the ready handshake"
  | .unreadable f => f.message
  | .unexpected line => s!"unexpected handshake from interpreter: {line}"
  | .other reason => reason

inductive CrashCause where
  | notWritten (e : OsError)
  | unreadable (f : Text.Utf8Fault)
  | exited (status : ExitStatus)
  | outputClosed
  | other (reason : String)
  deriving DecidableEq, Repr

def CrashCause.reason : CrashCause → String
  | .notWritten e => e.message
  | .unreadable f => f.message
  | .exited status => s!"interpreter exited with {status.text}"
  | .outputClosed => "interpreter closed its output stream"
  | .other reason => reason

inductive EngineError where
  | notReady
  | initialization (f : StartFault)
  | crashed (c : CrashCause)
  /-- The driver answered that it cannot read the request. -/
  | rejected (reason : String)
  deriving DecidableEq, Repr

def EngineError.message : EngineError → String
  | .notReady => "Python environment is not ready"
  | .initialization f => s!"Failed to initialize the Python runtime: {f.reason}"
  | .crashed c => s!"Python runtime exited unexpectedly: {c.reason}"
  | .rejected reason => s!"Python driver rejected the request: {reason}"

end ScriptBench
