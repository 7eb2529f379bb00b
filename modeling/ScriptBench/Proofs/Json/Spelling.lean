import ScriptBench.Proofs.Json.Quote

/-! The texts of a JSON value. Strings may be escaped in any way, and blanks may stand around all parts. -/
namespace ScriptBench.Json

open Decimal (digitsOf)

def Blanks (text : List Char) : Prop := ∀ c ∈ text, isSpace c = true

/-- A character as it may stand in a string: as it is, behind a backslash, or as one or two units of UTF-16. -/
inductive SpellsChar (c : Char) : List Char → Prop
  | plain (hquote : c ≠ '"') (hslash : c ≠ '\\') (hcontrol : isControl c = false) : SpellsChar c [c]
  | letter {x : Char} (h : unescape? x = some c) : SpellsChar c ['\\', x]
  | unit {d₁ d₂ d₃ d₄ : Char} (h : hexUnit? d₁ d₂ d₃ d₄ = some c.toNat) : SpellsChar c ['\\', 'u', d₁, d₂, d₃, d₄]
  | pair {d₁ d₂ d₃ d₄ e₁ e₂ e₃ e₄ : Char} {high low : Nat} (hhigh : hexUnit? d₁ d₂ d₃ d₄ = some high)
      (hlow : hexUnit? e₁ e₂ e₃ e₄ = some low) (h : isHighHalf high = true) (h' : isLowHalf low = true)
      (hc : ofPair high low = c) :
      SpellsChar c ['\\', 'u', d₁, d₂, d₃, d₄, '\\', 'u', e₁, e₂, e₃, e₄]

inductive SpellsChars : List Char → List Char → Prop
  | nil : SpellsChars [] []
  | cons {c : Char} {cs text more : List Char} (h : SpellsChar c text) (hmore : SpellsChars cs more) :
      SpellsChars (c :: cs) (text ++ more)

inductive SpellsString (s : String) : List Char → Prop
  | quoted {chars : List Char} (h : SpellsChars s.toList chars) : SpellsString s ('"' :: (chars ++ ['"']))

/-- What stands behind a part of a list: more parts, each behind a comma. -/
inductive Follows : List (List Char) → List Char → Prop
  | nil {gap : List Char} (h : Blanks gap) : Follows [] gap
  | cons {part gap before behind : List Char} {parts : List (List Char)} (hgap : Blanks gap) (hbefore : Blanks before)
      (hmore : Follows parts behind) : Follows (part :: parts) (gap ++ ',' :: (before ++ (part ++ behind)))

/-- Parts with commas between them. -/
inductive Listed : List (List Char) → List Char → Prop
  | nil {gap : List Char} (h : Blanks gap) : Listed [] gap
  | cons {part before behind : List Char} {parts : List (List Char)} (hbefore : Blanks before)
      (hmore : Follows parts behind) : Listed (part :: parts) (before ++ (part ++ behind))

mutual

/-- A text of a value. The numbers among its parts are natural and have at most 64 bits. -/
inductive Spells : Value → List Char → Prop
  | null : Spells .null Value.null.compact
  | bool (b : Bool) : Spells (.bool b) (Value.bool b).compact
  | nat {n : Nat} {m : Int} (hm : m = n) (h : n < UInt64.size) : Spells (.number (.int m)) (digitsOf n)
  | string {s : String} {text : List Char} (h : SpellsString s text) : Spells (.string s) text
  | array {items : List Value} {parts : List (List Char)} {body : List Char} (h : SpellsItems items parts)
      (hbody : Listed parts body) : Spells (.array items) ('[' :: (body ++ [']']))
  | object {members : List (String × Value)} {parts : List (List Char)} {body : List Char}
      (h : SpellsMembers members parts) (hbody : Listed parts body) :
      Spells (.object members) ('\x7b' :: (body ++ ['\x7d']))

inductive SpellsItems : List Value → List (List Char) → Prop
  | nil : SpellsItems [] []
  | cons {v : Value} {items : List Value} {part : List Char} {parts : List (List Char)} (h : Spells v part)
      (hmore : SpellsItems items parts) : SpellsItems (v :: items) (part :: parts)

inductive SpellsMembers : List (String × Value) → List (List Char) → Prop
  | nil : SpellsMembers [] []
  | cons {name : String} {v : Value} {members : List (String × Value)} {key gap before text : List Char}
      {parts : List (List Char)} (hkey : SpellsString name key) (hgap : Blanks gap) (hbefore : Blanks before)
      (h : Spells v text) (hmore : SpellsMembers members parts) :
      SpellsMembers ((name, v) :: members) ((key ++ (gap ++ ':' :: (before ++ text))) :: parts)

end

theorem blanks_nil : Blanks [] := by
  intro c hc
  cases hc

theorem skipSpace_blanks {gap : List Char} (h : Blanks gap) (text : List Char) :
    skipSpace (gap ++ text) = skipSpace text :=
  List.dropWhile_append_of_pos h

/-! Strings -/

theorem readUnit_of_hexUnit? {d₁ d₂ d₃ d₄ : Char} {n : Nat} (h : hexUnit? d₁ d₂ d₃ d₄ = some n) (rest : List Char) :
    readUnit (d₁ :: d₂ :: d₃ :: d₄ :: rest) = .ok (n, rest) := by
  rw [readUnit, h]

theorem readEscape_of_unescape? {x c : Char} (h : unescape? x = some c) (rest : List Char) :
    readEscape (x :: rest) = .ok (c, rest) := by
  have hx : x ≠ 'u' := by
    rintro rfl
    cases h
  rw [readEscape, if_neg hx, h]

theorem isHighHalf_char (c : Char) : isHighHalf c.toNat = false ∧ isLowHalf c.toNat = false := by
  have hvalid : c.toNat.isValidChar := c.valid
  unfold Nat.isValidChar at hvalid
  simp only [isHighHalf, isLowHalf, Bool.and_eq_false_iff, decide_eq_false_iff_not]
  omega

/-- A character is read from each of its spellings. -/
theorem readChars_of_spellsChar {c : Char} {text : List Char} (h : SpellsChar c text) (rest : List Char) :
    (readChars (text ++ rest)).toOption = (readChars rest).toOption.map fun p => (c :: p.1, p.2) := by
  cases h with
  | plain hquote hslash hcontrol => exact readChars_of_plain hquote hslash hcontrol rest
  | letter h => exact readChars_of_escape (readEscape_of_unescape? h rest)
  | unit h =>
    obtain ⟨hhigh, hlow⟩ := isHighHalf_char c
    refine readChars_of_escape ?_
    change readCodeUnits (_ :: _ :: _ :: _ :: rest) = _
    rw [readCodeUnits, readUnit_of_hexUnit? h]
    dsimp only
    rw [hlow, hhigh, Char.ofNat_toNat]
    rfl
  | @pair _ _ _ _ _ _ _ _ high low hhigh hlow h h' hc =>
    have hnot : isLowHalf high = false := by
      simp only [isHighHalf, isLowHalf, Bool.and_eq_true, decide_eq_true_eq, Bool.and_eq_false_iff,
        decide_eq_false_iff_not] at h ⊢
      omega
    refine readChars_of_escape ?_
    change readCodeUnits (_ :: _ :: _ :: _ :: '\\' :: 'u' :: _ :: _ :: _ :: _ :: rest) = _
    rw [readCodeUnits, readUnit_of_hexUnit? hhigh]
    dsimp only
    rw [hnot, h]
    change readLowHalf high ('\\' :: 'u' :: _ :: _ :: _ :: _ :: rest) = _
    rw [readLowHalf, readUnit_of_hexUnit? hlow]
    dsimp only
    rw [h', ← hc]
    rfl

theorem readChars_of_spellsChars {cs text : List Char} (h : SpellsChars cs text) (rest : List Char) :
    readChars (text ++ '"' :: rest) = .ok (cs, rest) := by
  refine eq_ok_of_toOption ?_
  induction h with
  | nil =>
    rw [List.nil_append, readChars, if_pos rfl]
    rfl
  | cons h _ ih =>
    rw [List.append_assoc, readChars_of_spellsChar h, ih]
    rfl

theorem readString_of_spellsChars {s : String} {text : List Char} (h : SpellsChars s.toList text) (rest : List Char) :
    readString (text ++ '"' :: rest) = .ok (s, rest) := by
  rw [readString, readChars_of_spellsChars h]
  change Except.ok (String.ofList s.toList, rest) = _
  rw [String.ofList_toList]

end ScriptBench.Json
