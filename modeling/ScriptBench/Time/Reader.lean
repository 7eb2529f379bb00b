import ScriptBench.Text.Blank
import ScriptBench.Text.Lines
import ScriptBench.Time.Instant

/-! Reading instants. Between the parts of a date and a time blanks may stand, numbers may be short, and an
offset from UTC ends the text. -/
namespace ScriptBench.Time

open Text

inductive Fault where
  | tooShort
  | invalid
  | outOfRange
  | impossible
  | tooLong
  deriving DecidableEq, Repr

def Fault.message : Fault → String
  | .tooShort => "premature end of input"
  | .invalid => "input contains invalid characters"
  | .outOfRange => "input is out of range"
  | .impossible => "no possible date and time matching input"
  | .tooLong => "trailing input"

/-- What a part of the text holds, and the rest of the text. -/
abbrev Part (α : Type) := List Char → Except Fault (α × List Char)

def digit (c : Char) : Nat := c.toNat - '0'.toNat

def numberOf (digits : List Char) : Nat := digits.foldl (fun n c => 10 * n + digit c) 0

/-- Reads a number of at least one and at most `width` digits, or of any number of them. -/
def number (width : Option Nat) : Part Nat := fun text =>
  let all := text.takeWhile Char.isDigit
  let digits := match width with
    | some n => all.take n
    | none => all
  match text, digits with
  | [], _ => .error .tooShort
  | _, [] => .error .invalid
  | _, digits =>
    if numberOf digits < 9223372036854775808 then .ok (numberOf digits, text.drop digits.length)
    else .error .outOfRange

def part (low high : Nat) : Part Nat := fun text => do
  let (n, rest) ← number (some 2) (trimStart text)
  if low ≤ n ∧ n ≤ high then return (n, rest) else .error .outOfRange

/-- Reads a year behind blanks. With a sign it may have any number of digits, else it has at most four. -/
def year : Part Int := fun text => do
  let (y, rest) ← match trimStart text with
    | '-' :: rest => (number none rest).map fun (n, rest) => (-(n : Int), rest)
    | '+' :: rest => (number none rest).map fun (n, rest) => ((n : Int), rest)
    | rest => (number (some 4) rest).map fun (n, rest) => ((n : Int), rest)
  if -2147483648 ≤ y ∧ y < 2147483648 then return (y, rest) else .error .outOfRange

def mark (c : Char) (text : List Char) : Except Fault (List Char) :=
  match trimStart text with
  | [] => .error .tooShort
  | x :: rest => if x = c then .ok rest else .error .invalid

def day : Part Day := fun text => do
  let (y, text) ← year text
  let text ← mark '-' text
  let (m, text) ← part 1 12 text
  let text ← mark '-' text
  let (d, text) ← part 1 31 text
  return (⟨y, m, d⟩, text)

def divider : List Char → Except Fault (List Char)
  | [] => .error .tooShort
  | c :: rest => if c = 't' ∨ c = 'T' ∨ c = ' ' then .ok rest else .error .invalid

/-- Reads a fraction of a second in nanoseconds. Digits behind the ninth do not count. -/
def fraction : Part Nat
  | '.' :: text => do
    let (n, rest) ← number (some 9) text
    return (n * Nat.pow 10 (9 - (text.length - rest.length)), rest.dropWhile Char.isDigit)
  | text => .ok (0, text)

def offsetHours (text : List Char) : Except Fault (Nat × List Char) :=
  if byteCount text < 2 then .error .tooShort
  else match text with
    | a :: b :: rest =>
      if a.isDigit && b.isDigit then .ok (10 * digit a + digit b, rest) else .error .invalid
    | _ => .error .invalid

def offsetMinutes (text : List Char) : Except Fault (Nat × List Char) := do
  match ← offsetHours text with
  | (n, rest) => if n < 60 then return (n, rest) else .error .outOfRange

def offset : Part Int := fun text =>
  let signed (negative : Bool) (text : List Char) : Except Fault (Int × List Char) := do
    let (h, rest) ← offsetHours text
    let (m, rest) ← offsetMinutes (rest.dropWhile fun c => c == ':' || isBlank c)
    let minutes : Int := h * 60 + m
    return (if negative then -minutes else minutes, rest)
  match text with
  | [] => .error .tooShort
  | 'Z' :: rest => .ok (0, rest)
  | 'z' :: rest => .ok (0, rest)
  | '+' :: rest => signed false rest
  | '-' :: rest => signed true rest
  | '\u2212' :: rest => signed true rest
  | u :: t :: c :: rest =>
    if [u, t, c].map Char.toUpper = ['U', 'T', 'C'] then .ok (0, rest) else .error .invalid
  | _ => .error .invalid

def Instant.read (text : List Char) : Except Fault Instant := do
  let (date, text) ← day text
  let text ← divider text
  let (hour, text) ← part 0 23 text
  let text ← mark ':' text
  let (minute, text) ← part 0 59 text
  let text ← mark ':' text
  let (second, text) ← part 0 60 text
  let (nanosecond, text) ← fraction text
  let (ahead, text) ← offset (trimStart text)
  unless (trimStart text).isEmpty do .error .tooLong
  unless date.IsValid ∧ -1440 < ahead ∧ ahead < 1440 do .error .outOfRange
  let t := Instant.fromOffset ⟨date, hour * 60 + minute, second, nanosecond⟩ ahead
  if t.date.IsValid then return t else .error .impossible

end ScriptBench.Time
