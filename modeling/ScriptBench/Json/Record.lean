import ScriptBench.Json.Scalar

/-! Reading a record: an object whose members are its fields in any order, or a list of them in order.
The fields are collected in a draft. -/
namespace ScriptBench.Json

structure Slot (σ : Type) where
  name : String
  /-- Whether a draft already holds the field. -/
  taken : σ → Bool
  /-- Reads the field into a draft. -/
  read : σ → Reader σ
  /-- Whether a list of the fields may end before this one. -/
  mayLack : Bool

def Slot.required (name : String) (get : σ → Option α) (put : σ → α → σ) (item : Reader α) : Slot σ where
  name := name
  taken s := (get s).isSome
  read s text := do
    let (a, rest) ← item text
    return (put s a, rest)
  mayLack := false

def Slot.optional (name : String) (get : σ → Option α) (put : σ → α → σ) (item : Reader α) : Slot σ :=
  { Slot.required name get put item with mayLack := true }

/-- The shape of a record: what it is called in messages, its fields, and how it is made from a draft, unless
a field is missing. -/
structure Shape (σ α : Type) where
  title : String
  slots : List (Slot σ)
  empty : σ
  build : σ → Except String α

variable {σ α : Type}

def Shape.expected (shape : Shape σ α) : String :=
  s!"struct {shape.title} with {shape.slots.length} elements"

/-- The rest of the text behind the brace that follows, if one follows. -/
def skipClosingBrace (text : List Char) : List Char :=
  match skipSpace text with
  | '\x7d' :: rest => rest
  | rest => rest

/-- One member of an object, read into a draft. A member that is no field is passed over. -/
def Shape.readMember (shape : Shape σ α) (s : σ) : Reader σ := fun text => do
  let (name, rest) ← readString text
  match shape.slots.find? (·.name == name) with
  | some slot =>
    if slot.taken s then .error (.before (.duplicateField name) (skipClosingBrace rest))
    else do
      let rest ← readColon rest
      slot.read s rest
  | none => do
    let rest ← readColon rest
    let rest ← skipValue rest
    return (s, rest)

/-- Goes on to the next element of a list behind another one, if there is one. -/
def nextElement? (isFirst : Bool) (text : List Char) : Except Fault (Option (List Char)) :=
  match skipSpace text with
  | [] => .error (.atEnd .endOfList)
  | ']' :: _ => .ok none
  | c :: rest =>
    if isFirst then .ok (some (c :: rest))
    else if c = ',' then
      match skipSpace rest with
      | [] => .error (.atEnd .endOfValue)
      | ']' :: rest => .error (.inside .trailingComma (']' :: rest))
      | rest => .ok (some rest)
    else .error (.inside .expectedCommaOrBracket (c :: rest))

def closeList (text : List Char) : Except Fault (List Char) :=
  match skipSpace text with
  | [] => .error (.atEnd .endOfList)
  | ']' :: rest => .ok rest
  | ',' :: rest =>
    match skipSpace rest with
    | ']' :: rest => .error (.inside .trailingComma (']' :: rest))
    | rest => .error (.inside .trailingCharacters rest)
  | rest => .error (.inside .trailingCharacters rest)

/-- The fields of a record in order, `count` of which are already read. -/
def Shape.readSlots (shape : Shape σ α) (count : Nat) : List (Slot σ) → σ → Reader σ
  | [], s, text => .ok (s, text)
  | slot :: more, s, text => do
    match ← nextElement? (count == 0) text with
    | some text => do
      let (s, rest) ← slot.read s text
      shape.readSlots (count + 1) more s rest
    | none =>
      if slot.mayLack then shape.readSlots (count + 1) more s text
      else
        let rest := (closeList text).toOption.getD text
        .error (.before (.wrongLength count shape.expected) rest)

/-- Makes the record from a draft in front of the given rest of the text. -/
def Shape.finish (shape : Shape σ α) (s : σ) (rest : List Char) : Except Fault (α × List Char) :=
  match shape.build s with
  | .ok a => .ok (a, rest)
  | .error name => .error (.before (.missingField name) rest)

def Shape.read (shape : Shape σ α) : Reader α := fun text =>
  match skipSpace text with
  | [] => .error (.atEnd .endOfValue)
  | '\x7b' :: rest => do
    let (s, rest) ← readMembers shape.readMember shape.empty rest
    shape.finish s rest
  | '[' :: rest => do
    let (s, rest) ← shape.readSlots 0 shape.slots shape.empty rest
    let rest ← closeList rest
    shape.finish s rest
  | rest => .error (mismatch s!"struct {shape.title}" rest)

def need (name : String) (field : Option α) : Except String α :=
  match field with
  | some a => .ok a
  | none => .error name

end ScriptBench.Json
