/-! Bytes as UTF-8 text, with the place and the kind of the first fault. -/
namespace ScriptBench.Text

inductive Utf8Fault where
  /-- `length` bytes from index `start` on begin no character. -/
  | invalid (length start : Nat)
  /-- The bytes from index `start` on end inside a character. -/
  | incomplete (start : Nat)
  deriving DecidableEq, Repr

def Utf8Fault.message : Utf8Fault → String
  | .invalid length start => s!"invalid utf-8 sequence of {length} bytes from index {start}"
  | .incomplete start => s!"incomplete utf-8 byte sequence from index {start}"

/-- How the bytes behind a first byte have to go on: a range for each. -/
def continuations (first : UInt8) : Option (List (UInt8 × UInt8)) :=
  let any := (0x80, 0xBF)
  if first < 0x80 then some []
  else if first < 0xC2 then none
  else if first ≤ 0xDF then some [any]
  else if first == 0xE0 then some [(0xA0, 0xBF), any]
  else if first == 0xED then some [(0x80, 0x9F), any]
  else if first ≤ 0xEF then some [any, any]
  else if first == 0xF0 then some [(0x90, 0xBF), any, any]
  else if first ≤ 0xF3 then some [any, any, any]
  else if first == 0xF4 then some [(0x80, 0x8F), any, any]
  else none

/-- Looks for a fault among the bytes of one character, `length` of which are already read. -/
def characterFault (start : Nat) : Nat → List (UInt8 × UInt8) → List UInt8 → Option Utf8Fault
  | _, [], _ => none
  | _, _ :: _, [] => some (.incomplete start)
  | length, (low, high) :: more, b :: rest =>
    if low ≤ b && b ≤ high then characterFault start (length + 1) more rest
    else some (.invalid length start)

/-- The first fault of bytes, of which `skip` still belong to the character before. -/
def faultFrom (start : Nat) : Nat → List UInt8 → Option Utf8Fault
  | _, [] => none
  | skip + 1, _ :: rest => faultFrom (start + 1) skip rest
  | 0, b :: rest =>
    match continuations b with
    | none => some (.invalid 1 start)
    | some more =>
      match characterFault start 1 more rest with
      | some fault => some fault
      | none => faultFrom (start + 1) more.length rest

def decodeUtf8 (bytes : List UInt8) : Except Utf8Fault String :=
  match String.fromUTF8? ⟨bytes.toArray⟩ with
  | some text => .ok text
  | none => .error ((faultFrom 0 0 bytes).getD (.incomplete 0))

def encodeUtf8 (text : String) : List UInt8 := text.toByteArray.data.toList

@[simp] theorem decodeUtf8_encodeUtf8 (text : String) : decodeUtf8 (encodeUtf8 text) = .ok text := by
  have h : (⟨(encodeUtf8 text).toArray⟩ : ByteArray) = text.toByteArray := by simp [encodeUtf8]
  simp only [decodeUtf8, h, String.fromUTF8?]
  rw [dif_pos text.isValidUTF8]
  rfl

end ScriptBench.Text
