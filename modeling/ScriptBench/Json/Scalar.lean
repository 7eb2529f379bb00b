import ScriptBench.Data.Sorted
import ScriptBench.Json.Skip

/-! Reading a value of a known kind: texts, numbers in a range, yes or no, what may be absent, lists and
dictionaries. A text that holds something else is refused with what stands there. -/
namespace ScriptBench.Json

open Text

/-- Says what was read in place of something expected, or why it could not be read. -/
def refusal (expected : String) (token : α → Token) : Except Fault (α × List Char) → Fault
  | .ok (a, rest) => .before (.wrongType (token a) expected) rest
  | .error f => f

/-- What stands at the front of a text in place of something expected, or why even that cannot be read. -/
def mismatch (expected : String) (text : List Char) : Fault :=
  let word (token : Token) (letters rest : List Char) :=
    refusal expected (fun _ => token) ((readWord letters rest).map ((), ·))
  match text with
  | [] => .atEnd .expectedValue
  | 'n' :: rest => word .null ['u', 'l', 'l'] rest
  | 't' :: rest => word (.bool true) ['r', 'u', 'e'] rest
  | 'f' :: rest => word (.bool false) ['a', 'l', 's', 'e'] rest
  | '"' :: rest => refusal expected .string (readString rest)
  | '[' :: _ => .before (.wrongType .list expected) text
  | '\x7b' :: _ => .before (.wrongType .object expected) text
  | c :: _ =>
    if c == '-' || c.isDigit then refusal expected .number (readNumber text)
    else .inside .expectedValue text

def readTextAs (expected : String) : Reader String := fun text =>
  match skipSpace text with
  | [] => .error (.atEnd .endOfValue)
  | '"' :: rest => readString rest
  | rest => .error (mismatch expected rest)

def readText : Reader String := readTextAs "a string"

/-- Reads a string that stands for a value. A string that stands for none is refused with a reason. -/
def readParsed (expected : String) (parse : String → Except String α) : Reader α := fun text => do
  let (s, rest) ← readTextAs expected text
  match parse s with
  | .ok a => return (a, rest)
  | .error reason => .error (.before (.refused reason) rest)

def readBounded (expected : String) (low high : Int) : Reader Int := fun text =>
  match skipSpace text with
  | [] => .error (.atEnd .endOfValue)
  | c :: rest =>
    if c == '-' || c.isDigit then do
      match ← readNumber (c :: rest) with
      | (.int n, rest) =>
        if low ≤ n ∧ n ≤ high then return (n, rest)
        else .error (.before (.wrongValue n expected) rest)
      | (.float x, rest) => .error (.before (.wrongType (.number (.float x)) expected) rest)
    else .error (mismatch expected (c :: rest))

def readUInt32 : Reader UInt32 := fun text => do
  let (n, rest) ← readBounded "u32" 0 4294967295 text
  return (.ofNat n.toNat, rest)

def readUInt64As (expected : String) : Reader UInt64 := fun text => do
  let (n, rest) ← readBounded expected 0 18446744073709551615 text
  return (.ofNat n.toNat, rest)

def readInt64 : Reader Int64 := fun text => do
  let (n, rest) ← readBounded "i64" (-9223372036854775808) 9223372036854775807 text
  return (.ofInt n, rest)

def readBool : Reader Bool := fun text =>
  match skipSpace text with
  | [] => .error (.atEnd .endOfValue)
  | 't' :: rest => do return (true, ← readWord ['r', 'u', 'e'] rest)
  | 'f' :: rest => do return (false, ← readWord ['a', 'l', 's', 'e'] rest)
  | rest => .error (mismatch "a boolean" rest)

def readOption (item : Reader α) : Reader (Option α) := fun text =>
  match skipSpace text with
  | 'n' :: rest => do return (none, ← readWord ['u', 'l', 'l'] rest)
  | rest => do
    let (a, rest) ← item rest
    return (some a, rest)

/-- Reads the `null` that may stand behind the name of a variant. -/
def readUnit? (text : List Char) : Except Fault (List Char) :=
  match skipSpace text with
  | [] => .error (.atEnd .endOfValue)
  | 'n' :: rest => readWord ['u', 'l', 'l'] rest
  | rest => .error (mismatch "unit" rest)

def readList (item : Reader α) : Reader (List α) := fun text =>
  match skipSpace text with
  | [] => .error (.atEnd .endOfValue)
  | '[' :: rest => readElements item rest
  | rest => .error (mismatch "a sequence" rest)

/-- Reads an object whose members are all of one kind. The last of equal names counts. -/
def readDictionary (item : Reader α) : Reader (Dictionary α) := fun text =>
  match skipSpace text with
  | [] => .error (.atEnd .endOfValue)
  | '\x7b' :: rest =>
    let member (d : Dictionary α) (text : List Char) : Except Fault (Dictionary α × List Char) := do
      let (name, rest) ← readString text
      let rest ← readColon rest
      let (a, rest) ← item rest
      return (d.insert name a, rest)
    readMembers member .empty rest
  | rest => .error (mismatch "a map" rest)

def readNames : Reader Names := fun text => do
  let (names, rest) ← readList readText text
  return (.ofList names, rest)

def readVariantName (variants : List (String × α)) : Reader α := fun text => do
  let (name, rest) ← readString text
  match variants.lookup name with
  | some a => return (a, rest)
  | none => .error (.before (.unknownVariant name (variants.map (·.1))) rest)

def closeObject (text : List Char) : Except Fault (List Char) :=
  match skipSpace text with
  | [] => .error (.atEnd .endOfObject)
  | '\x7d' :: rest => .ok rest
  | rest => .error (.before .expectedValue rest)

/-- Reads one of several names, alone or as the only member of an object, with `null`. -/
def readVariant (variants : List (String × α)) : Reader α := fun text =>
  match skipSpace text with
  | [] => .error (.atEnd .endOfValue)
  | '"' :: rest => readVariantName variants rest
  | '\x7b' :: rest =>
    match skipSpace rest with
    | [] => .error (.atEnd .endOfObject)
    | '"' :: rest => do
      let (a, rest) ← readVariantName variants rest
      let rest ← readUnit? (← readColon rest)
      return (a, ← closeObject rest)
    | '\x7d' :: rest => .error (.inside .expectedValue ('\x7d' :: rest))
    | rest => .error (.inside .keyMustBeString rest)
  | rest => .error (.inside .expectedValue rest)

end ScriptBench.Json
