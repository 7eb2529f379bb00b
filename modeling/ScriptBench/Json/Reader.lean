import ScriptBench.Json.Fault

/-! Reading JSON from a list of characters: blanks, words, numbers, strings, lists and objects. A reader
gives what it read and the rest of the text. -/
namespace ScriptBench.Json

open Decimal (Double)
open Text

abbrev Reader (α : Type) := List Char → Except Fault (α × List Char)

def isSpace (c : Char) : Bool := c == ' ' || c == '\n' || c == '\t' || c == '\r'

def skipSpace (text : List Char) : List Char := text.dropWhile isSpace

def readWord : List Char → List Char → Except Fault (List Char)
  | [], rest => .ok rest
  | _ :: _, [] => .error (.atEnd .endOfValue)
  | w :: word, c :: rest =>
    if c = w then readWord word rest else .error (.inside .expectedIdent (c :: rest))

/-! Numbers -/

def digit (c : Char) : Nat := c.toNat - '0'.toNat

/-- Adds digits to a significand as long as it stays below `2 ^ 64`. Gives the significand, the number of
digits added and the rest. -/
def gather (significand count : Nat) : List Char → Nat × Nat × List Char
  | [] => (significand, count, [])
  | c :: rest =>
    if c.isDigit && significand * 10 + digit c < UInt64.size then
      gather (significand * 10 + digit c) (count + 1) rest
    else (significand, count, c :: rest)

def scaled (negative : Bool) (significand : Nat) (exponent : Int) : Reader Number := fun rest =>
  match Double.ofParts? negative significand exponent with
  | some x => .ok (.float x, rest)
  | none => .error (.before .numberOutOfRange rest)

/-- The digits of an exponent, which may not pass `2 ^ 31 - 1`. -/
def readExponentDigits (negative : Bool) (significand : Nat) (exponent : Int) (down : Bool)
    (read : Nat) : Reader Number
  | [] => scaled negative significand (if down then exponent - read else exponent + read) []
  | c :: rest =>
    if c.isDigit then
      if 2147483648 ≤ read * 10 + digit c then
        if significand ≠ 0 ∧ ¬down then .error (.before .numberOutOfRange rest)
        else scaled negative 0 0 (rest.dropWhile Char.isDigit)
      else readExponentDigits negative significand exponent down (read * 10 + digit c) rest
    else scaled negative significand (if down then exponent - read else exponent + read) (c :: rest)

def readExponent (negative : Bool) (significand : Nat) (exponent : Int) : Reader Number := fun text =>
  let (down, text) := match text with
    | '+' :: rest => (false, rest)
    | '-' :: rest => (true, rest)
    | rest => (false, rest)
  match text with
  | [] => .error (.atEnd .endOfValue)
  | c :: rest =>
    if c.isDigit then readExponentDigits negative significand exponent down (digit c) rest
    else .error (.inside .invalidNumber (c :: rest))

def isExponentMark (c : Char) : Bool := c == 'e' || c == 'E'

/-- What follows the digits of a number that is no integer. -/
def readScale (negative : Bool) (significand : Nat) (exponent : Int) : Reader Number
  | [] => scaled negative significand exponent []
  | c :: rest =>
    if isExponentMark c then readExponent negative significand exponent rest
    else scaled negative significand exponent (c :: rest)

/-- What follows the point of a number. Digits that the significand cannot hold are dropped. -/
def readFraction (negative : Bool) (significand : Nat) (exponent : Int) : Reader Number
  | [] => .error (.atEnd .endOfValue)
  | c :: rest =>
    if c.isDigit then
      let (significand, count, rest) := gather significand 0 (c :: rest)
      readScale negative significand (exponent - count) (rest.dropWhile Char.isDigit)
    else .error (.inside .invalidNumber (c :: rest))

/-- An integer of 64 bits stays one. A negative one below the range, and minus zero, become doubles. -/
def integer (negative : Bool) (n : Nat) : Number :=
  if negative then
    if 0 < n ∧ n ≤ 9223372036854775808 then .int (-n) else .float (.ofFloat (-n.toUInt64.toFloat))
  else .int n

def readAfterDigits (negative : Bool) (significand : Nat) : Reader Number
  | [] => .ok (integer negative significand, [])
  | c :: rest =>
    if c == '.' then readFraction negative significand 0 rest
    else if isExponentMark c then readExponent negative significand 0 rest
    else .ok (integer negative significand, c :: rest)

/-- What follows digits of which the last `count` did not fit into the significand. -/
def readLong (negative : Bool) (significand : Nat) (count : Nat) : Reader Number
  | [] => scaled negative significand count []
  | c :: rest =>
    if c.isDigit then readLong negative significand (count + 1) rest
    else if c == '.' then readFraction negative significand count rest
    else readScale negative significand count (c :: rest)

def readDigits (negative : Bool) : Reader Number
  | [] => .error (.atEnd .endOfValue)
  | c :: rest =>
    if c == '0' then
      match rest with
      | d :: _ =>
        if d.isDigit then .error (.inside .invalidNumber rest) else readAfterDigits negative 0 rest
      | [] => readAfterDigits negative 0 []
    else if c.isDigit then
      let (significand, _, rest) := gather (digit c) 0 rest
      match rest with
      | d :: _ =>
        if d.isDigit then readLong negative significand 0 rest
        else readAfterDigits negative significand rest
      | [] => readAfterDigits negative significand []
    else .error (.inside .invalidNumber (c :: rest))

def readNumber : Reader Number
  | '-' :: rest => readDigits true rest
  | text => readDigits false text

/-! Strings -/

def hexDigit? (c : Char) : Option Nat :=
  if c.isDigit then some (c.toNat - '0'.toNat)
  else if 'a' ≤ c ∧ c ≤ 'f' then some (c.toNat - 'a'.toNat + 10)
  else if 'A' ≤ c ∧ c ≤ 'F' then some (c.toNat - 'A'.toNat + 10)
  else none

def hexUnit? (a b c d : Char) : Option Nat := do
  let a ← hexDigit? a
  let b ← hexDigit? b
  let c ← hexDigit? c
  let d ← hexDigit? d
  return ((a * 16 + b) * 16 + c) * 16 + d

def badUnit (text : List Char) : Fault :=
  if 4 ≤ byteCount text then ⟨.invalidEscape, byteCount text - 4⟩ else .atEnd .endOfString

def readUnit : Reader Nat
  | a :: b :: c :: d :: rest =>
    match hexUnit? a b c d with
    | some n => .ok (n, rest)
    | none => .error (badUnit (a :: b :: c :: d :: rest))
  | text => .error (badUnit text)

/-- Whether a unit of UTF-16 is the first half of a pair. -/
def isHighHalf (n : Nat) : Bool := 0xD800 ≤ n && n ≤ 0xDBFF

/-- Whether a unit of UTF-16 is the second half of a pair. -/
def isLowHalf (n : Nat) : Bool := 0xDC00 ≤ n && n ≤ 0xDFFF

/-- The second half of a pair, which has to be escaped as well. -/
def readLowHalf (high : Nat) : Reader Char
  | [] => .error (.atEnd .endOfString)
  | '\\' :: [] => .error (.atEnd .endOfString)
  | '\\' :: 'u' :: rest =>
    match readUnit rest with
    | .error f => .error f
    | .ok (low, rest) =>
      if isLowHalf low then
        .ok (Char.ofNat ((high - 0xD800) * 0x400 + (low - 0xDC00) + 0x10000), rest)
      else .error (.before .loneSurrogate rest)
  | '\\' :: c :: rest => .error (.inside .unexpectedEndOfHexEscape (c :: rest))
  | c :: rest => .error (.inside .unexpectedEndOfHexEscape (c :: rest))

/-- The character of an escape by code units, behind its letter. -/
def readCodeUnits : Reader Char := fun text =>
  match readUnit text with
  | .error f => .error f
  | .ok (n, rest) =>
    if isLowHalf n then .error (.before .loneSurrogate rest)
    else if isHighHalf n then readLowHalf n rest
    else .ok (Char.ofNat n, rest)

/-- The character that a letter behind a backslash stands for. -/
def unescape? : Char → Option Char
  | '"' => some '"'
  | '\\' => some '\\'
  | '/' => some '/'
  | 'b' => some '\x08'
  | 'f' => some '\x0c'
  | 'n' => some '\n'
  | 'r' => some '\r'
  | 't' => some '\t'
  | _ => none

def readEscape : Reader Char
  | [] => .error (.atEnd .endOfString)
  | c :: rest =>
    if c = 'u' then readCodeUnits rest
    else match unescape? c with
      | some x => .ok (x, rest)
      | none => .error (.inside .invalidEscape (c :: rest))

theorem readUnit_length {text rest : List Char} {n : Nat} (h : readUnit text = .ok (n, rest)) :
    rest.length < text.length := by
  unfold readUnit at h
  split at h
  · split at h
    · simp only [Except.ok.injEq, Prod.mk.injEq] at h
      simp only [List.length_cons, ← h.2]
      omega
    · simp at h
  · simp at h

theorem readLowHalf_length {high : Nat} {text rest : List Char} {c : Char}
    (h : readLowHalf high text = .ok (c, rest)) : rest.length < text.length := by
  unfold readLowHalf at h
  split at h
  · simp at h
  · simp at h
  · split at h
    · simp at h
    · rename_i hu
      split at h
      · simp only [Except.ok.injEq, Prod.mk.injEq] at h
        have := readUnit_length hu
        simp only [List.length_cons, ← h.2]
        omega
      · simp at h
  · simp at h
  · simp at h

theorem readCodeUnits_length {text rest : List Char} {c : Char}
    (h : readCodeUnits text = .ok (c, rest)) : rest.length < text.length := by
  unfold readCodeUnits at h
  split at h
  · simp at h
  · rename_i hu
    have hl := readUnit_length hu
    split at h
    · simp at h
    · split at h
      · exact Nat.lt_trans (readLowHalf_length h) hl
      · simp only [Except.ok.injEq, Prod.mk.injEq] at h
        exact h.2 ▸ hl

theorem readEscape_length {text rest : List Char} {c : Char}
    (h : readEscape text = .ok (c, rest)) : rest.length < text.length := by
  unfold readEscape at h
  split at h
  · simp at h
  · split at h
    · have := readCodeUnits_length h
      simp only [List.length_cons]
      omega
    · split at h
      · simp only [Except.ok.injEq, Prod.mk.injEq] at h
        simp [← h.2]
      · simp at h

/-- The characters that have to be escaped in a string besides the quote and the backslash. -/
def isControl (c : Char) : Bool := c.toNat < 0x20

def readChars (text : List Char) : Except Fault (List Char × List Char) :=
  match text with
  | [] => .error (.atEnd .endOfString)
  | c :: rest =>
    if c = '"' then .ok ([], rest)
    else if c = '\\' then
      match _h : readEscape rest with
      | .error f => .error f
      | .ok (x, after) => do
        let (chars, after) ← readChars after
        return (x :: chars, after)
    else if isControl c then .error (.before .controlCharacter rest)
    else do
      let (chars, after) ← readChars rest
      return (c :: chars, after)
termination_by text.length
decreasing_by
  · have := readEscape_length _h
    simp only [List.length_cons]
    omega
  · simp

def readString : Reader String := fun text => do
  let (chars, rest) ← readChars text
  return (String.ofList chars, rest)

/-! Lists and objects -/

/-- The elements of a list behind one of them, up to the closing bracket. At most `fuel` are read. -/
def readMoreElements (item : Reader α) : (fuel : Nat) → Reader (List α)
  | 0, text => .error (.before .endOfList text)
  | fuel + 1, text =>
    match skipSpace text with
    | [] => .error (.atEnd .endOfList)
    | ']' :: rest => .ok ([], rest)
    | ',' :: rest =>
      match skipSpace rest with
      | [] => .error (.atEnd .endOfValue)
      | ']' :: rest => .error (.inside .trailingComma (']' :: rest))
      | rest => do
        let (a, rest) ← item rest
        let (as, rest) ← readMoreElements item fuel rest
        return (a :: as, rest)
    | rest => .error (.inside .expectedCommaOrBracket rest)

def readElements (item : Reader α) : Reader (List α) := fun text =>
  match skipSpace text with
  | [] => .error (.atEnd .endOfList)
  | ']' :: rest => .ok ([], rest)
  | rest => do
    let (a, rest) ← item rest
    let (as, rest) ← readMoreElements item (rest.length + 1) rest
    return (a :: as, rest)

def readColon (text : List Char) : Except Fault (List Char) :=
  match skipSpace text with
  | [] => .error (.atEnd .endOfObject)
  | ':' :: rest => .ok rest
  | rest => .error (.inside .expectedColon rest)

/-- The members of an object behind one of them, up to the closing brace. Each is read into a state,
from behind the quote that opens its key. At most `fuel` are read. -/
def readMoreMembers (member : σ → Reader σ) : (fuel : Nat) → σ → Reader σ
  | 0, _, text => .error (.before .endOfObject text)
  | fuel + 1, s, text =>
    match skipSpace text with
    | [] => .error (.atEnd .endOfObject)
    | '\x7d' :: rest => .ok (s, rest)
    | ',' :: rest =>
      match skipSpace rest with
      | [] => .error (.atEnd .endOfValue)
      | '"' :: rest => do
        let (s, rest) ← member s rest
        readMoreMembers member fuel s rest
      | '\x7d' :: rest => .error (.inside .trailingComma ('\x7d' :: rest))
      | rest => .error (.inside .keyMustBeString rest)
    | rest => .error (.inside .expectedCommaOrBrace rest)

def readMembers (member : σ → Reader σ) (s : σ) : Reader σ := fun text =>
  match skipSpace text with
  | [] => .error (.atEnd .endOfObject)
  | '\x7d' :: rest => .ok (s, rest)
  | '"' :: rest => do
    let (s, rest) ← member s rest
    readMoreMembers member (rest.length + 1) s rest
  | rest => .error (.inside .keyMustBeString rest)

/-! Values -/

/-- Lists and objects may stand in each other below this depth. -/
def depthLimit : Nat := 128

def readMember (value : Reader Value) (members : List (String × Value)) :
    Reader (List (String × Value)) := fun text => do
  let (key, rest) ← readString text
  let rest ← readColon rest
  let (v, rest) ← value rest
  return (members ++ [(key, v)], rest)

/-- A value whose lists and objects stand in each other below the given depth. -/
def readValue : (depth : Nat) → Reader Value
  | 0, text => .error (.before .tooDeep text)
  | depth + 1, text =>
    match skipSpace text with
    | [] => .error (.atEnd .endOfValue)
    | 'n' :: rest => do return (.null, ← readWord ['u', 'l', 'l'] rest)
    | 't' :: rest => do return (.bool true, ← readWord ['r', 'u', 'e'] rest)
    | 'f' :: rest => do return (.bool false, ← readWord ['a', 'l', 's', 'e'] rest)
    | '"' :: rest => do
      let (s, rest) ← readString rest
      return (.string s, rest)
    | '[' :: rest =>
      if depth = 0 then .error (.inside .tooDeep ('[' :: rest))
      else do
        let (items, rest) ← readElements (readValue depth) rest
        return (.array items, rest)
    | '\x7b' :: rest =>
      if depth = 0 then .error (.inside .tooDeep ('\x7b' :: rest))
      else do
        let (members, rest) ← readMembers (readMember (readValue depth)) [] rest
        return (.object members, rest)
    | c :: rest =>
      if c == '-' || c.isDigit then do
        let (n, rest) ← readNumber (c :: rest)
        return (.number n, rest)
      else .error (.inside .expectedValue (c :: rest))

/-- Reads a whole text: behind what the reader takes only blanks may follow. -/
def parse (read : Reader α) (text : String) : Except ReadError α :=
  let chars := text.toList
  match read chars with
  | .error f => .error (f.locate chars)
  | .ok (a, rest) =>
    match skipSpace rest with
    | [] => .ok a
    | rest => .error ((Fault.inside .trailingCharacters rest).locate chars)

def Value.parse (text : String) : Except ReadError Value := Json.parse (readValue depthLimit) text

end ScriptBench.Json
