import ScriptBench.Json.Printer
import ScriptBench.Json.Record
import ScriptBench.Time.Reader
import ScriptBench.Uuid

/-! Tests: a source with a test function, and what came of its last run. -/
namespace ScriptBench

inductive Status where
  | pending
  | passed
  | failed
  | error
  deriving DecidableEq, Repr

namespace Status

def name : Status → String
  | .pending => "pending"
  | .passed => "passed"
  | .failed => "failed"
  | .error => "error"

def label : Status → String
  | .pending => "PENDING"
  | .passed => "PASSED"
  | .failed => "FAILED"
  | .error => "ERROR"

def all : List Status := [.pending, .passed, .failed, .error]

def read : Json.Reader Status := Json.readVariant (all.map fun s => (s.name, s))

end Status

structure Test where
  id : Uuid
  displayName : String
  /-- The first test function of the source. It is the one that a run calls. -/
  functionName? : Option String
  source : String
  status : Status
  output : String
  lastRun? : Option Time.Instant
  deriving DecidableEq, Repr

namespace Test

def fresh (id : Uuid) (displayName : String) (functionName? : Option String) (source : String) : Test :=
  ⟨id, displayName, functionName?, source, .pending, "", none⟩

def identity (t : Test) : String := t.functionName?.getD t.displayName

/-! Tests in JSON -/

open Json (Value Shape)

def toJson (t : Test) : Value :=
  .object
    [("id", .string t.id.text),
     ("display_name", .string t.displayName),
     ("function_name", .text? t.functionName?),
     ("source", .string t.source),
     ("status", .string t.status.name),
     ("output", .string t.output),
     ("last_run", .text? (t.lastRun?.map Time.Instant.text))]

structure Draft where
  id : Option Uuid
  displayName : Option String
  functionName : Option (Option String)
  source : Option String
  status : Option Status
  output : Option String
  lastRun : Option (Option Time.Instant)

def readId : Json.Reader Uuid :=
  Json.readParsed "a formatted UUID string" fun s =>
    (Uuid.ofText? s).mapError fun e => "UUID parsing failed: " ++ e.message

def readInstant : Json.Reader Time.Instant :=
  Json.readParsed "an RFC 3339 formatted date and time string" fun s =>
    (Time.Instant.read s.toList).mapError Time.Fault.message

def shape : Shape Draft Test where
  title := "ActiveTest"
  slots :=
    [.required "id" (·.id) (fun s a => { s with id := a }) readId,
     .required "display_name" (·.displayName) (fun s a => { s with displayName := a }) Json.readText,
     .required "function_name" (·.functionName) (fun s a => { s with functionName := some a })
       (Json.readOption Json.readText),
     .required "source" (·.source) (fun s a => { s with source := a }) Json.readText,
     .required "status" (·.status) (fun s a => { s with status := a }) Status.read,
     .required "output" (·.output) (fun s a => { s with output := a }) Json.readText,
     .optional "last_run" (·.lastRun) (fun s a => { s with lastRun := some a }) (Json.readOption readInstant)]
  empty := ⟨none, none, none, none, none, none, none⟩
  build s := do
    let id ← Json.need "id" s.id
    let displayName ← Json.need "display_name" s.displayName
    let source ← Json.need "source" s.source
    let status ← Json.need "status" s.status
    let output ← Json.need "output" s.output
    return ⟨id, displayName, s.functionName.join, source, status, output, s.lastRun.join⟩

end Test

def readTests (text : String) : Except Json.ReadError (List Test) :=
  Json.parse (Json.readList Test.shape.read) text

def writeTests (tests : List Test) : String := (Json.Value.array (tests.map Test.toJson)).pretty

end ScriptBench
