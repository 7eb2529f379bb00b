/-! Refusals of the operating system. -/
namespace ScriptBench

inductive OsError where
  | notFound
  | permissionDenied
  | exists
  | notDirectory
  | isDirectory
  | brokenPipe
  | nameTooLong
  | notImplemented
  /-- A path holds a NUL, so it is never handed to the system. -/
  | nulInPath
  /-- The name of a program holds a NUL. -/
  | nulInProgram
  /-- A failure outside the model, such as a full disk, with its number and its text. -/
  | other (code : Nat) (text : String)
  deriving DecidableEq, Repr

namespace OsError

def code? : OsError → Option Nat
  | .notFound => some 2
  | .permissionDenied => some 13
  | .exists => some 17
  | .notDirectory => some 20
  | .isDirectory => some 21
  | .brokenPipe => some 32
  | .nameTooLong => some 36
  | .notImplemented => some 38
  | .nulInPath => none
  | .nulInProgram => none
  | .other code _ => some code

def text : OsError → String
  | .notFound => "No such file or directory"
  | .permissionDenied => "Permission denied"
  | .exists => "File exists"
  | .notDirectory => "Not a directory"
  | .isDirectory => "Is a directory"
  | .brokenPipe => "Broken pipe"
  | .nameTooLong => "File name too long"
  | .notImplemented => "Function not implemented"
  | .nulInPath => "file name contained an unexpected NUL byte"
  | .nulInProgram => "nul byte found in provided data"
  | .other _ text => text

def message (e : OsError) : String :=
  match e.code? with
  | some code => s!"{e.text} (os error {code})"
  | none => e.text

end OsError

end ScriptBench
