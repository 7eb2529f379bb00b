import ScriptBench.Decimal.Shortest
import ScriptBench.Json.Value
import ScriptBench.Text.Lines
import ScriptBench.Text.Visible

/-! Why a text is not the JSON that is wanted, and where. -/
namespace ScriptBench.Json

open Text

inductive Token where
  | null
  | bool (b : Bool)
  | number (n : Number)
  | string (s : String)
  | list
  | object
  deriving DecidableEq, Repr

def Token.text : Token → String
  | .null => "null"
  | .bool b => s!"boolean `{b}`"
  | .number (.int n) => s!"integer `{n}`"
  | .number (.float x) => s!"floating point `{String.ofList x.text}`"
  | .string s => s!"string {visible s}"
  | .list => "sequence"
  | .object => "map"

inductive Cause where
  | endOfValue
  | endOfString
  | endOfList
  | endOfObject
  | expectedValue
  | expectedIdent
  | expectedColon
  | expectedCommaOrBracket
  | expectedCommaOrBrace
  | keyMustBeString
  | trailingComma
  | trailingCharacters
  | invalidEscape
  | unexpectedEndOfHexEscape
  | loneSurrogate
  | controlCharacter
  | invalidNumber
  | numberOutOfRange
  | tooDeep
  | wrongType (found : Token) (expected : String)
  | wrongValue (found : Int) (expected : String)
  | wrongLength (found : Nat) (expected : String)
  | missingField (name : String)
  | duplicateField (name : String)
  | unknownVariant (found : String) (known : List String)
  /-- A text that is no value of its type, with the reason. -/
  | refused (reason : String)
  deriving DecidableEq, Repr

def choices : List String → String
  | [] => "there are no variants"
  | [a] => s!"`{a}`"
  | [a, b] => s!"`{a}` or `{b}`"
  | names => "one of " ++ ", ".intercalate (names.map fun n => s!"`{n}`")

def Cause.message : Cause → String
  | .endOfValue => "EOF while parsing a value"
  | .endOfString => "EOF while parsing a string"
  | .endOfList => "EOF while parsing a list"
  | .endOfObject => "EOF while parsing an object"
  | .expectedValue => "expected value"
  | .expectedIdent => "expected ident"
  | .expectedColon => "expected `:`"
  | .expectedCommaOrBracket => "expected `,` or `]`"
  | .expectedCommaOrBrace => "expected `,` or `\x7d`"
  | .keyMustBeString => "key must be a string"
  | .trailingComma => "trailing comma"
  | .trailingCharacters => "trailing characters"
  | .invalidEscape => "invalid escape"
  | .unexpectedEndOfHexEscape => "unexpected end of hex escape"
  | .loneSurrogate => "lone leading surrogate in hex escape"
  | .controlCharacter => "control character (\\u0000-\\u001F) found while parsing a string"
  | .invalidNumber => "invalid number"
  | .numberOutOfRange => "number out of range"
  | .tooDeep => "recursion limit exceeded"
  | .wrongType found expected => s!"invalid type: {found.text}, expected {expected}"
  | .wrongValue found expected => s!"invalid value: integer `{found}`, expected {expected}"
  | .wrongLength found expected => s!"invalid length {found}, expected {expected}"
  | .missingField name => s!"missing field `{name}`"
  | .duplicateField name => s!"duplicate field `{name}`"
  | .unknownVariant found known => s!"unknown variant `{found}`, expected {choices known}"
  | .refused reason => reason

/-- A cause, and how many bytes of the text lie behind the place where it arose. -/
structure Fault where
  cause : Cause
  left : Nat
  deriving DecidableEq, Repr

def Fault.before (cause : Cause) (rest : List Char) : Fault := ⟨cause, byteCount rest⟩

def Fault.inside (cause : Cause) (rest : List Char) : Fault := ⟨cause, byteCount rest - 1⟩

def Fault.atEnd (cause : Cause) : Fault := ⟨cause, 0⟩

/-- Line and column after the first `bytes` bytes of a text, counted on from a line and a column. The
column counts bytes. -/
def position (line column : Nat) : List Char → (bytes : Nat) → Nat × Nat
  | [], _ => (line, column)
  | c :: rest, bytes =>
    if bytes < c.utf8Size then (line, column + bytes)
    else if c = '\n' then position (line + 1) 0 rest (bytes - 1)
    else position line (column + c.utf8Size) rest (bytes - c.utf8Size)

structure ReadError where
  cause : Cause
  line : Nat
  column : Nat
  deriving DecidableEq, Repr

def Fault.locate (text : List Char) (f : Fault) : ReadError :=
  let (line, column) := position 1 0 text (byteCount text - f.left)
  ⟨f.cause, line, column⟩

def ReadError.message (e : ReadError) : String :=
  s!"{e.cause.message} at line {e.line} column {e.column}"

end ScriptBench.Json
