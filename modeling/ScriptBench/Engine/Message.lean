import ScriptBench.Json.Reader

/-! What an interpreter writes to the host: one message a line. A message is an object whose member `type`
tells its kind, or a list that starts with the kind and goes on with the fields in order. -/
namespace ScriptBench

open Json (Value)

structure RaisedError where
  kind : String
  message : String
  traceback : String
  deriving DecidableEq, Repr

structure Reply where
  id? : Option Nat
  ok : Bool
  stdout : String
  stderr : String
  value? : Option String
  error? : Option RaisedError
  deriving DecidableEq, Repr

inductive Message where
  | ready (version : String) (pid : Nat)
  | result (r : Reply)
  /-- The driver could not read a request. -/
  | invalid (message : String)
  deriving DecidableEq, Repr

namespace Message

/-- The member with a name, if there is one. There must not be two. -/
def once? (members : List (String × Value)) (name : String) : Option (Option Value) :=
  match members.filter (·.1 == name) with
  | [] => some none
  | [m] => some (some m.2)
  | _ => none

def required? (members : List (String × Value)) (name : String) (read : Value → Option α) : Option α := do
  read (← (← once? members name))

def optional? (members : List (String × Value)) (name : String) (fallback : α) (read : Value → Option α) :
    Option α := do
  match ← once? members name with
  | some v => read v
  | none => return fallback

def text? : Value → Option String
  | .string s => some s
  | _ => none

def bool? : Value → Option Bool
  | .bool b => some b
  | _ => none

def natBelow? (bound : Nat) : Value → Option Nat
  | .number (.int n) => if 0 ≤ n ∧ n < bound then some n.toNat else none
  | _ => none

def nullable? (read : Value → Option α) : Value → Option (Option α)
  | .null => some none
  | v => (read v).map some

def raisedError? : Value → Option RaisedError
  | .object members => do
    let kind ← required? members "kind" text?
    let message ← optional? members "message" "" text?
    let traceback ← optional? members "traceback" "" text?
    return ⟨kind, message, traceback⟩
  | .array [kind] => do return ⟨← text? kind, "", ""⟩
  | .array [kind, message] => do return ⟨← text? kind, ← text? message, ""⟩
  | .array [kind, message, traceback] => do return ⟨← text? kind, ← text? message, ← text? traceback⟩
  | _ => none

def readyOf? (members : List (String × Value)) : Option Message := do
  let version ← required? members "version" text?
  let pid ← required? members "pid" (natBelow? UInt32.size)
  return .ready version pid

def resultOf? (members : List (String × Value)) : Option Message := do
  let id ← optional? members "id" none (nullable? (natBelow? UInt64.size))
  let ok ← required? members "ok" bool?
  let stdout ← optional? members "stdout" "" text?
  let stderr ← optional? members "stderr" "" text?
  let value ← optional? members "value" none (nullable? text?)
  let error ← optional? members "error" none (nullable? raisedError?)
  return .result ⟨id, ok, stdout, stderr, value, error⟩

def invalidOf? (members : List (String × Value)) : Option Message := do
  let message ← required? members "message" text?
  return .invalid message

/-- The message of a kind with the given members. Members that the kind does not know do not count. -/
def ofMembers? (kind : String) (members : List (String × Value)) : Option Message :=
  match kind with
  | "ready" => readyOf? members
  | "result" => resultOf? members
  | "invalid" => invalidOf? members
  | _ => none

def fieldNames (kind : String) : List String :=
  match kind with
  | "ready" => ["version", "pid"]
  | "result" => ["id", "ok", "stdout", "stderr", "value", "error"]
  | "invalid" => ["message"]
  | _ => []

def ofValue? : Value → Option Message
  | .object members => do
    let kind ← required? members "type" text?
    ofMembers? kind (members.filter (·.1 != "type"))
  | .array (.string kind :: fields) =>
    let names := fieldNames kind
    if fields.length = names.length then ofMembers? kind (names.zip fields) else none
  | _ => none

def ofLine? (line : String) : Option Message := (Value.parse line).toOption.bind ofValue?

end Message

end ScriptBench
