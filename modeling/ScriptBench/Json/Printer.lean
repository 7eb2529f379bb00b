import ScriptBench.Decimal.Shortest
import ScriptBench.Json.Value
import ScriptBench.Text.Lines

/-! Printing JSON: strings in quotes, values on one line, values indented by two blanks a level. -/
namespace ScriptBench.Json

open Decimal (digitsOf)

def hexDigit (n : Nat) : Char := n.digitChar

/-- A character as it stands in a string. Only the quote, the backslash and the characters below the blank
are escaped. -/
def escape (c : Char) : List Char :=
  match c with
  | '"' => ['\\', '"']
  | '\\' => ['\\', '\\']
  | '\x08' => ['\\', 'b']
  | '\x0c' => ['\\', 'f']
  | '\n' => ['\\', 'n']
  | '\r' => ['\\', 'r']
  | '\t' => ['\\', 't']
  | c =>
    if c.toNat < 0x20 then ['\\', 'u', '0', '0', hexDigit (c.toNat / 16), hexDigit (c.toNat % 16)]
    else [c]

def quote (text : List Char) : List Char := '"' :: text.flatMap escape ++ ['"']

/-- A string literal for a text. It is one of Python as well. -/
def literal (text : String) : String := String.ofList (quote text.toList)

def Number.text : Number → List Char
  | .int n => (if n < 0 then ['-'] else []) ++ digitsOf n.natAbs
  | .float x => x.text

def separate (separator : List Char) : List (List Char) → List Char
  | [] => []
  | [part] => part
  | part :: more => part ++ separator ++ separate separator more

mutual

def Value.compact : Value → List Char
  | .null => ['n', 'u', 'l', 'l']
  | .bool true => ['t', 'r', 'u', 'e']
  | .bool false => ['f', 'a', 'l', 's', 'e']
  | .number n => n.text
  | .string s => quote s.toList
  | .array items => '[' :: separate [','] (compactItems items) ++ [']']
  | .object members => '\x7b' :: separate [','] (compactMembers members) ++ ['\x7d']

def compactItems : List Value → List (List Char)
  | [] => []
  | v :: more => v.compact :: compactItems more

def compactMembers : List (String × Value) → List (List Char)
  | [] => []
  | (name, v) :: more => (quote name.toList ++ ':' :: v.compact) :: compactMembers more

end

/-- A line end and the blanks in front of a line at a level. -/
def indent (level : Nat) : List Char := '\n' :: List.replicate (2 * level) ' '

/-- Parts between brackets, each on lines of its own one level deeper. Nothing stands between the brackets
if there are no parts. -/
def spread (level : Nat) (opening closing : Char) (parts : List (List Char)) : List Char :=
  if parts.isEmpty then [opening, closing]
  else
    opening :: indent (level + 1) ++ separate (',' :: indent (level + 1)) parts ++ indent level
      ++ [closing]

mutual

/-- A value whose parts stand on lines of their own. Its first line is already begun. -/
def Value.indented (level : Nat) : Value → List Char
  | .array items => spread level '[' ']' (indentedItems (level + 1) items)
  | .object members => spread level '\x7b' '\x7d' (indentedMembers (level + 1) members)
  | v => v.compact

def indentedItems (level : Nat) : List Value → List (List Char)
  | [] => []
  | v :: more => v.indented level :: indentedItems level more

def indentedMembers (level : Nat) : List (String × Value) → List (List Char)
  | [] => []
  | (name, v) :: more =>
    (quote name.toList ++ ':' :: ' ' :: v.indented level) :: indentedMembers level more

end

def Value.line (v : Value) : String := String.ofList v.compact

def Value.pretty (v : Value) : String := String.ofList (v.indented 0)

/-! Values of common kinds -/

def Value.text? : Option String → Value
  | some s => .string s
  | none => .null

def Value.nat (n : Nat) : Value := .number (.int n)

end ScriptBench.Json
