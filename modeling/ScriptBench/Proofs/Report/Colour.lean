import ScriptBench.Report

/-! Texts in colour: what is left of one without its colour sequences. -/
namespace ScriptBench

namespace Report

/-! Colour sequences -/

/-- Characters of the numbers in a colour sequence. -/
def isCode (c : Char) : Bool := c.isDigit || c == ';'

/-- What follows the colour sequence at the front of a text, if there is one. -/
def behindSequence? : List Char → Option (List Char)
  | '\x1b' :: '[' :: text =>
    match text.dropWhile isCode with
    | 'm' :: rest => some rest
    | _ => none
  | _ => none

theorem behindSequence?_length {text rest : List Char} (h : behindSequence? text = some rest) :
    rest.length < text.length := by
  unfold behindSequence? at h
  split at h
  · rename_i text
    split at h
    · rename_i hdrop
      cases h
      have hle : (text.dropWhile isCode).length ≤ text.length := (List.dropWhile_sublist isCode).length_le
      rw [hdrop, List.length_cons] at hle
      simp only [List.length_cons]
      omega
    · cases h
  · cases h

/-- A text without its colour sequences. -/
def uncoloured (text : List Char) : List Char :=
  match _h : behindSequence? text with
  | some rest => uncoloured rest
  | none =>
    match text with
    | [] => []
    | c :: more => c :: uncoloured more
termination_by text.length
decreasing_by
  · exact behindSequence?_length _h
  · simp

theorem uncoloured_nil : uncoloured [] = [] := by
  rw [uncoloured]
  rfl

theorem uncoloured_of_sequence {text rest : List Char} (h : behindSequence? text = some rest) :
    uncoloured text = uncoloured rest := by
  rw [uncoloured]
  split
  · rename_i h'
    rw [h] at h'
    cases h'
    rfl
  · rename_i h'
    rw [h] at h'
    cases h'

theorem uncoloured_cons {c : Char} (hc : c ≠ '\x1b') (rest : List Char) :
    uncoloured (c :: rest) = c :: uncoloured rest := by
  have hnone : behindSequence? (c :: rest) = none := by
    unfold behindSequence?
    split
    · rename_i heq
      exact absurd (List.cons.inj heq).1 hc
    · rfl
  rw [uncoloured]
  split
  · rename_i h'
    rw [hnone] at h'
    cases h'
  · rfl

theorem uncoloured_escapeSequence {code : List Char} (hcode : code.all isCode = true) (rest : List Char) :
    uncoloured (escapeSequence code ++ rest) = uncoloured rest := by
  have hdrop : (code ++ 'm' :: rest).dropWhile isCode = 'm' :: rest := by
    rw [List.dropWhile_append_of_pos (List.all_eq_true.1 hcode)]
    rfl
  have hbehind : behindSequence? (escapeSequence code ++ rest) = some rest := by
    change behindSequence? ('\x1b' :: '[' :: (code ++ ['m'] ++ rest)) = some rest
    rw [List.append_assoc, List.singleton_append, behindSequence?, hdrop]
    rfl
  exact uncoloured_of_sequence hbehind

/-! Painted texts -/

/-- A text that is another one in colour, whatever stands behind it. -/
def Paints (painted plain : List Char) : Prop := ∀ rest, uncoloured (painted ++ rest) = plain ++ uncoloured rest

theorem Paints.uncoloured_eq {painted plain : List Char} (h : Paints painted plain) : uncoloured painted = plain := by
  have hnil := h []
  rw [List.append_nil, uncoloured_nil, List.append_nil] at hnil
  exact hnil

theorem Paints.append {a a' b b' : List Char} (h : Paints a a') (h' : Paints b b') : Paints (a ++ b) (a' ++ b') := by
  intro rest
  rw [List.append_assoc, h, h', List.append_assoc]

/-- A text without escape characters stands for itself. -/
theorem paints_self {text : List Char} (h : '\x1b' ∉ text) : Paints text text := by
  intro rest
  induction text with
  | nil => rfl
  | cons c text ih =>
    rw [List.mem_cons, not_or] at h
    rw [List.cons_append, uncoloured_cons (Ne.symm h.1), ih h.2]
    rfl

theorem Paints.cons {a b : List Char} {c : Char} (hc : c ≠ '\x1b') (h : Paints a b) : Paints (c :: a) (c :: b) := by
  intro rest
  rw [List.cons_append, uncoloured_cons hc, h]
  rfl

theorem paints_paint (colour : Bool) (ink : Ink) {text : List Char} (h : '\x1b' ∉ text) :
    Paints (paint colour ink text) text := by
  cases colour with
  | false => exact paints_self h
  | true =>
    intro rest
    have hon : ∀ rest, uncoloured (ink.on ++ rest) = uncoloured rest := by
      cases ink <;> exact uncoloured_escapeSequence (by decide)
    have hoff : ∀ rest, uncoloured (ink.off ++ rest) = uncoloured rest := by
      cases ink <;> exact uncoloured_escapeSequence (by decide)
    change uncoloured (ink.on ++ text ++ ink.off ++ rest) = _
    rw [List.append_assoc, List.append_assoc, hon, paints_self h, hoff]

theorem Paints.part {a b : List Char} (h : Paints a b) (present : Bool) :
    Paints (part present a) (part present b) := by
  cases present with
  | false => exact paints_self List.not_mem_nil
  | true => exact h

theorem paints_flatMap {α : Type} {f g : α → List Char} {xs : List α} (h : ∀ x ∈ xs, Paints (f x) (g x)) :
    Paints (xs.flatMap f) (xs.flatMap g) := by
  induction xs with
  | nil => exact paints_self List.not_mem_nil
  | cons x xs ih =>
    rw [List.flatMap_cons, List.flatMap_cons]
    obtain ⟨hx, hxs⟩ := List.forall_mem_cons.1 h
    exact hx.append (ih hxs)

theorem paints_separate {α : Type} {f g : α → List Char} {separator : List Char} (hseparator : '\x1b' ∉ separator)
    {xs : List α} (h : ∀ x ∈ xs, Paints (f x) (g x)) :
    Paints (Json.separate separator (xs.map f)) (Json.separate separator (xs.map g)) := by
  induction xs with
  | nil => exact paints_self List.not_mem_nil
  | cons x xs ih =>
    obtain ⟨hx, hxs⟩ := List.forall_mem_cons.1 h
    cases xs with
    | nil => exact hx
    | cons y xs =>
      have hmore := ih hxs
      exact (hx.append (paints_self hseparator)).append hmore

end Report

end ScriptBench
