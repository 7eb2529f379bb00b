import ScriptBench.Text.Blank
import ScriptBench.Text.Word

/-! The name of the first test function that a source defines at the start of a line. -/
namespace ScriptBench.Script

open Text

/-- The name in a definition of a test function at the front of a text: `def`, blanks, a name that starts
with `test_` and goes on, and an opening parenthesis behind it. -/
def definedName? : List Char → Option (List Char)
  | 'd' :: 'e' :: 'f' :: c :: text =>
    if isBlank c then
      match trimStart text with
      | 't' :: 'e' :: 's' :: 't' :: '_' :: text =>
        let name := text.takeWhile isWord
        match name, trimStart (text.dropWhile isWord) with
        | _ :: _, '(' :: _ => some (['t', 'e', 's', 't', '_'] ++ name)
        | _, _ => none
      | _ => none
    else none
  | _ => none

/-- Looks for a definition at the front of every line. The first argument tells whether the text stands at
the front of a line. -/
def findName? : Bool → List Char → Option (List Char)
  | _, [] => none
  | atFront, c :: text =>
    match if atFront then definedName? (c :: text) else none with
    | some name => some name
    | none => findName? (c == '\n') text

def functionName? (source : String) : Option String :=
  (findName? true source.toList).map String.ofList

end ScriptBench.Script
