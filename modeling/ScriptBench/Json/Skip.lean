import ScriptBench.Json.Reader

/-! Passing over a value that nobody asked for. Its grammar is checked, its content is not kept: numbers
may have any size, escapes any code unit, and lists and objects stand in each other as deep as they like. -/
namespace ScriptBench.Json

open Text

abbrev Skipper := List Char → Except Fault (List Char)

def skipExponent : Skipper := fun text =>
  let text := match text with
    | '+' :: rest => rest
    | '-' :: rest => rest
    | rest => rest
  match text with
  | [] => .error (.atEnd .invalidNumber)
  | c :: rest =>
    if c.isDigit then .ok (rest.dropWhile Char.isDigit)
    else .error (.inside .invalidNumber (c :: rest))

def skipScale : Skipper
  | [] => .ok []
  | c :: rest => if isExponentMark c then skipExponent rest else .ok (c :: rest)

def skipFraction : Skipper
  | [] => .error (.atEnd .invalidNumber)
  | c :: rest =>
    if c.isDigit then skipScale (rest.dropWhile Char.isDigit)
    else .error (.inside .invalidNumber (c :: rest))

def skipAfterDigits : Skipper
  | [] => .ok []
  | c :: rest => if c == '.' then skipFraction rest else skipScale (c :: rest)

def skipDigits : Skipper
  | [] => .error (.atEnd .invalidNumber)
  | c :: rest =>
    if c == '0' then
      match rest with
      | d :: _ => if d.isDigit then .error (.inside .invalidNumber rest) else skipAfterDigits rest
      | [] => .ok []
    else if c.isDigit then skipAfterDigits (rest.dropWhile Char.isDigit)
    else .error (.inside .invalidNumber (c :: rest))

def skipNumber : Skipper
  | '-' :: rest => skipDigits rest
  | text => skipDigits text

def skipChars : List Char → Except Fault (List Char)
  | [] => .error (.atEnd .endOfString)
  | '"' :: rest => .ok rest
  | '\\' :: [] => .error (.atEnd .endOfString)
  | '\\' :: 'u' :: a :: b :: c :: d :: rest =>
    if (hexUnit? a b c d).isSome then skipChars rest
    else .error (badUnit (a :: b :: c :: d :: rest))
  | '\\' :: 'u' :: rest => .error (badUnit rest)
  | '\\' :: c :: rest =>
    if (unescape? c).isSome then skipChars rest else .error (.inside .invalidEscape (c :: rest))
  | c :: rest =>
    if isControl c then .error (.before .controlCharacter (c :: rest)) else skipChars rest

/-- Skips the elements of a list from one of them on, up to the closing bracket. -/
def skipElements (item : Skipper) : (fuel : Nat) → Skipper
  | 0, text => .error (.before .endOfList text)
  | fuel + 1, text => do
    let rest ← item text
    match skipSpace rest with
    | [] => .error (.atEnd .endOfList)
    | ']' :: rest => .ok rest
    | ',' :: rest => skipElements item fuel rest
    | rest => .error (.inside .expectedCommaOrBracket rest)

/-- Skips the members of an object from one of them on, up to the closing brace. -/
def skipMembers (item : Skipper) : (fuel : Nat) → Skipper
  | 0, text => .error (.before .endOfObject text)
  | fuel + 1, text =>
    match skipSpace text with
    | [] => .error (.atEnd .endOfObject)
    | '"' :: rest => do
      let rest ← skipChars rest
      let rest ← readColon rest
      let rest ← item rest
      match skipSpace rest with
      | [] => .error (.atEnd .endOfObject)
      | '\x7d' :: rest => .ok rest
      | ',' :: rest => skipMembers item fuel rest
      | rest => .error (.inside .expectedCommaOrBrace rest)
    | rest => .error (.inside .keyMustBeString rest)

/-- Skips a value in a text that is shorter than the given bound. Lists and objects cannot stand deeper in each
other, nor have more parts, than that. -/
def skipWithin : (bound : Nat) → Skipper
  | 0, text => .error (.before .tooDeep text)
  | bound + 1, text =>
    match skipSpace text with
    | [] => .error (.atEnd .endOfValue)
    | 'n' :: rest => readWord ['u', 'l', 'l'] rest
    | 't' :: rest => readWord ['r', 'u', 'e'] rest
    | 'f' :: rest => readWord ['a', 'l', 's', 'e'] rest
    | '"' :: rest => skipChars rest
    | '[' :: rest =>
      match skipSpace rest with
      | [] => .error (.atEnd .endOfList)
      | ']' :: rest => .ok rest
      | rest => skipElements (skipWithin bound) bound rest
    | '\x7b' :: rest =>
      match skipSpace rest with
      | [] => .error (.atEnd .endOfObject)
      | '\x7d' :: rest => .ok rest
      | rest => skipMembers (skipWithin bound) bound rest
    | c :: rest =>
      if c == '-' || c.isDigit then skipNumber (c :: rest)
      else .error (.inside .expectedValue (c :: rest))

def skipValue : Skipper := fun text => skipWithin (text.length + 1) text

end ScriptBench.Json
