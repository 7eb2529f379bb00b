import ScriptBench.Json.Printer
import ScriptBench.Json.Reader

/-! Identifiers of 128 bits, written as hexadecimal digits in five groups. -/
namespace ScriptBench

open Text

structure Uuid where
  digits : List (Fin 16)
  length_eq : digits.length = 32
  deriving DecidableEq, Repr

namespace Uuid

def groupSizes : List Nat := [8, 4, 4, 4, 12]

/-- Characters in groups of the given sizes, with a hyphen between groups. -/
def hyphenate : List Nat → List Char → List Char
  | [], cs => cs
  | [_], cs => cs
  | n :: sizes, cs => cs.take n ++ '-' :: hyphenate sizes (cs.drop n)

/-- The characters of groups of the given sizes without the hyphens between them. -/
def ungroup? : List Nat → List Char → Option (List Char)
  | [], cs => if cs.isEmpty then some [] else none
  | [n], cs => if cs.length = n then some cs else none
  | n :: sizes, cs =>
    match cs.drop n with
    | '-' :: rest => (ungroup? sizes rest).map (cs.take n ++ ·)
    | _ => none

def text (u : Uuid) : String :=
  String.ofList (hyphenate groupSizes (u.digits.map fun d => Json.hexDigit d.val))

def ofDigits? (cs : List Char) : Option Uuid := do
  let digits ← cs.mapM fun c => (Json.hexDigit? c).map (Fin.ofNat 16)
  if h : digits.length = 32 then some ⟨digits, h⟩ else none

def unbrace? : List Char → Option (List Char)
  | '\x7b' :: rest => if rest.getLast? = some '\x7d' then some rest.dropLast else none
  | _ => none

/-- What stands behind the name of the name space, which may be in any case. -/
def unname? (cs : List Char) : Option (List Char) :=
  if (cs.take 9).map Char.toLower = ['u', 'r', 'n', ':', 'u', 'u', 'i', 'd', ':'] then some (cs.drop 9)
  else none

/-- What has to be the hyphenated form, by the length of the text: the whole text, or the part between
braces or behind the name space. -/
def hyphenated? (cs : List Char) : Option (List Char) :=
  match byteCount cs with
  | 36 => some cs
  | 38 => unbrace? cs
  | 45 => unname? cs
  | _ => none

inductive Fault where
  | character (found : Char) (index : Nat)
  | length (found : Nat)
  | groupCount (found : Nat)
  | groupLength (group expected found : Nat)
  deriving DecidableEq, Repr

def Fault.message : Fault → String
  | .character found index => s!"invalid character: found `{found}` at {index}"
  | .length found => s!"invalid length: found {found}"
  | .groupCount found => s!"invalid group count: expected 5, found {found}"
  | .groupLength group expected found =>
    s!"invalid group length in group {group}: expected {expected}, found {found}"

def groupStarts : List Nat := [0, 9, 14, 19]

/-- The first character that is neither a digit nor a hyphen, with its index in bytes. -/
def strangeCharacter? (index : Nat) : List Char → Option (Char × Nat)
  | [] => none
  | c :: rest =>
    if c = '-' ∨ (Json.hexDigit? c).isSome then strangeCharacter? (index + c.utf8Size) rest
    else some (c, index)

/-- The first of the leading four groups that does not end where it should, given where the groups start and
where the hyphens stand. -/
def badGroup? (group : Nat) : List Nat → List Nat → List Nat → Option Fault
  | size :: sizes, start :: starts, hyphen :: hyphens =>
    if hyphen = start + size then badGroup? (group + 1) sizes starts hyphens
    else some (.groupLength group size (hyphen - start))
  | _, _, _ => none

def hyphens (index : Nat) : List Char → List Nat
  | [] => []
  | c :: rest => if c = '-' then index :: hyphens (index + 1) rest else hyphens (index + 1) rest

/-- Why groups of digits of which the whole text has `size` bytes are wrong, or why there are none. -/
def groupFault (size : Nat) (cs : List Char) : Fault :=
  let places := hyphens 0 cs
  if places.length ≠ 4 then .groupCount (places.length + 1)
  else (badGroup? 0 groupSizes groupStarts places).getD (.groupLength 4 12 (size - 24))

/-- The length of the longest form of an identifier in bytes. -/
def longest : Nat := 45

/-- What stands in braces or behind the name space, and how many bytes stand in front of it. -/
def undress? (cs : List Char) : Option (List Char × Nat) :=
  match unbrace? cs, unname? cs with
  | some inner, _ => some (inner, 1)
  | none, some inner => some (inner, 9)
  | none, none => none

def diagnose (cs : List Char) : Fault :=
  let size := byteCount cs
  let inspect (offset : Nat) (inner : List Char) (otherwise : Fault) : Fault :=
    match strangeCharacter? offset inner with
    | some (c, index) => .character c index
    | none => otherwise
  if longest < size then .length size
  else match hyphenated? cs, undress? cs with
  | some inner, _ => inspect 0 inner (groupFault 36 inner)
  | none, some (inner, offset) => inspect offset inner (groupFault size inner)
  | none, none =>
    inspect 0 cs (if (hyphens 0 cs).isEmpty then .length size else groupFault size cs)

/-- Reads an identifier: the digits alone, or hyphenated, which may stand in braces or behind the name of its
name space. -/
def ofText? (text : String) : Except Fault Uuid :=
  let cs := text.toList
  let grouped := (hyphenated? cs).bind fun inner => (ungroup? groupSizes inner).bind ofDigits?
  match (ofDigits? cs).orElse fun _ => grouped with
  | some u => .ok u
  | none => .error (diagnose cs)

def lowDigits : Nat → Nat → List (Fin 16)
  | 0, _ => []
  | count + 1, n => Fin.ofNat 16 n :: lowDigits count (n / 16)

theorem lowDigits_length (count n : Nat) : (lowDigits count n).length = count := by
  induction count generalizing n with
  | zero => rfl
  | succ count ih => simp [lowDigits, ih]

/-- The identifier of version 4 made from the bits of a number. -/
def version4 (bits : Nat) : Uuid where
  digits := (((lowDigits 32 bits).reverse.set 12 4).set 16 (Fin.ofNat 16 (8 + bits / 1152921504606846976 % 4)))
  length_eq := by simp [lowDigits_length]

def version (u : Uuid) : Nat := (u.digits[12]?.getD 0).val

end Uuid

end ScriptBench
