import ScriptBench.Proofs.Json.Printed
import ScriptBench.Proofs.Json.Reading
import ScriptBench.Proofs.Script.Literal

/-! The literal of a text, as a reader of scripts and a reader of JSON see it. Each of them takes it up to its last
quote, whatever stands behind it, and gives the text back. -/
namespace ScriptBench.Script

/-! Escapes -/

/-- The letters that are an escape by themselves. -/
def escapeLetters : List Char := ['"', '\\', 'b', 'f', 'n', 'r', 't']

/-- Characters between two quotes. A quote has a backslash before it, and a backslash begins an escape: one letter, or
the number of a control character. -/
inductive Escaped : List Char → Prop
  | nil : Escaped []
  | plain {c : Char} {text : List Char} (hquote : c ≠ '"') (hslash : c ≠ '\\') (h : Escaped text) :
      Escaped (c :: text)
  | letter {x : Char} {text : List Char} (hx : x ∈ escapeLetters) (h : Escaped text) : Escaped ('\\' :: x :: text)
  | control {d₁ d₂ d₃ d₄ : Char} {n : Nat} {text : List Char} (hn : Json.hexUnit? d₁ d₂ d₃ d₄ = some n)
      (hcontrol : n < 0x20) (h : Escaped text) : Escaped ('\\' :: 'u' :: d₁ :: d₂ :: d₃ :: d₄ :: text)

theorem hexUnit?_control {n : Nat} (h : n < 0x20) :
    Json.hexUnit? '0' '0' (Json.hexDigit (n / 16)) (Json.hexDigit (n % 16)) = some n := by
  have hall : ∀ n < 0x20, Json.hexUnit? '0' '0' (Json.hexDigit (n / 16)) (Json.hexDigit (n % 16)) = some n := by
    decide
  exact hall n h

theorem Escaped.escape_append {text : List Char} (h : Escaped text) (c : Char) :
    Escaped (Json.escape c ++ text) := by
  unfold Json.escape
  split
  case h_8 hquote hslash _ _ _ _ _ =>
    split
    case isTrue hcontrol => exact .control (hexUnit?_control hcontrol) hcontrol h
    case isFalse => exact .plain hquote hslash h
  all_goals exact .letter (by decide) h

theorem escaped_flatMap_escape (cs : List Char) : Escaped (cs.flatMap Json.escape) := by
  induction cs with
  | nil => exact .nil
  | cons c cs ih =>
    rw [List.flatMap_cons]
    exact ih.escape_append c

/-! Where a literal ends -/

theorem pointsToQuote?_nil : pointsToQuote? [] = none := by rw [pointsToQuote?]

theorem codePoint?_of_short {count : Nat} {text : List Char} (h : text.length < count) :
    codePoint? count text = none := by
  have htake : (text.take count).length ≠ count := by
    rw [List.length_take]
    omega
  unfold codePoint?
  cases hexValue? (text.take count) with
  | none => rfl
  | some n => exact if_neg fun hn => htake hn.1

theorem pointsToQuote?_of_cut {text : List Char} (h : escaped? text = none) : pointsToQuote? ('\\' :: text) = none := by
  rw [pointsToQuote?, if_neg (by decide), if_neg (by decide), if_pos rfl]
  split
  · rename_i h'
    rw [h] at h'
    cases h'
  · rfl

/-- What stands for a character is the character, or an escape of one letter, or one of four digits. -/
theorem escape_cases (c : Char) :
    Json.escape c = [c] ∨ (∃ x, Json.escape c = ['\\', x]) ∨
      ∃ d₁ d₂ d₃ d₄, Json.escape c = ['\\', 'u', d₁, d₂, d₃, d₄] := by
  unfold Json.escape
  split
  case h_8 =>
    split
    · exact .inr (.inr ⟨_, _, _, _, rfl⟩)
    · exact .inl rfl
  all_goals exact .inr (.inl ⟨_, rfl⟩)

/-- A text that ends within what stands for a character, or right behind it, has no quote at its end. -/
theorem pointsToQuote?_of_prefix_escape {p : List Char} {c : Char} (hp : p <+: Json.escape c) :
    pointsToQuote? p = none := by
  have hwhole : pointsToQuote? (Json.escape c) = none := by
    have hnil := pointsToQuote?_escape c []
    rw [pointsToQuote?_nil, List.append_nil] at hnil
    exact hnil
  by_cases hlength : p.length = (Json.escape c).length
  · rw [hp.eq_of_length hlength]
    exact hwhole
  have hshort : p.length < (Json.escape c).length := by
    have hle := hp.length_le
    omega
  cases p with
  | nil => exact pointsToQuote?_nil
  | cons a q =>
    rw [List.length_cons] at hshort
    rcases escape_cases c with hescape | ⟨x, hescape⟩ | ⟨d₁, d₂, d₃, d₄, hescape⟩
    · rw [hescape, List.length_singleton] at hshort
      omega
    · rw [hescape] at hp hshort
      rw [List.length_cons, List.length_singleton] at hshort
      have hq : q = [] := List.eq_nil_of_length_eq_zero (by omega)
      rw [(List.cons_prefix_cons.1 hp).1, hq]
      exact pointsToQuote?_of_cut rfl
    · rw [hescape] at hp hshort
      rw [(List.cons_prefix_cons.1 hp).1]
      cases q with
      | nil => exact pointsToQuote?_of_cut rfl
      | cons b r =>
        have hr : r.length < 4 := by
          simp at hshort
          omega
        rw [(List.cons_prefix_cons.1 (List.cons_prefix_cons.1 hp).2).1]
        exact pointsToQuote?_of_cut (codePoint?_of_short hr)

/-- The first quote at which a literal can end is its own, whatever stands behind it. -/
theorem eq_of_prefix_flatMap_escape {cs rest p : List Char} {points : List Nat}
    (hp : p <+: cs.flatMap Json.escape ++ '"' :: rest) (h : pointsToQuote? p = some points) :
    p = cs.flatMap Json.escape ++ ['"'] := by
  induction cs generalizing p points with
  | nil =>
    cases p with
    | nil =>
      rw [pointsToQuote?_nil] at h
      cases h
    | cons a q =>
      have ha : a = '"' := (List.cons_prefix_cons.1 hp).1
      subst ha
      rw [pointsToQuote?, if_pos rfl] at h
      by_cases hq : q = []
      · rw [hq]
        rfl
      · rw [if_neg hq] at h
        cases h
  | cons c cs ih =>
    rw [List.flatMap_cons, List.append_assoc] at hp ⊢
    have hescape : Json.escape c <+: Json.escape c ++ (cs.flatMap Json.escape ++ '"' :: rest) :=
      List.prefix_append _ _
    rcases List.prefix_or_prefix_of_prefix hp hescape with hshort | ⟨q, hq⟩
    · rw [pointsToQuote?_of_prefix_escape hshort] at h
      cases h
    · subst hq
      have hrest : q <+: cs.flatMap Json.escape ++ '"' :: rest := (List.prefix_append_right_inj _).1 hp
      rw [pointsToQuote?_escape] at h
      obtain ⟨more, hmore, _⟩ := Option.map_eq_some_iff.1 h
      rw [ih hrest hmore]

/-! The literal of a text -/

theorem toList_literal (text : String) :
    (Json.literal text).toList = '"' :: (text.toList.flatMap Json.escape ++ ['"']) := by
  rw [Json.literal, String.toList_ofList]
  rfl

theorem eq_literal_of_prefix {text : String} {rest p : List Char} {points : List Nat}
    (hp : p <+: (Json.literal text).toList ++ rest) (h : evaluate? p = some points) :
    p = (Json.literal text).toList := by
  rw [toList_literal, List.cons_append, List.append_assoc, List.singleton_append] at hp
  cases p with
  | nil => cases h
  | cons a q =>
    obtain ⟨ha, hq⟩ := List.cons_prefix_cons.1 hp
    subst ha
    rw [toList_literal, eq_of_prefix_flatMap_escape hq h]

theorem readText_literal (text : String) (rest : List Char) :
    Json.readText ((Json.literal text).toList ++ rest) = .ok (text, rest) := by
  rw [toList_literal, List.cons_append, List.append_assoc, List.singleton_append]
  exact Json.readString_quote text rest

theorem parse_literal (text : String) : Json.Value.parse (Json.literal text) = .ok (.string text) := by
  have hspells : Json.Spells (.string text) (Json.literal text).toList := by
    rw [Json.literal, String.toList_ofList]
    exact .string (Json.spellsString_quote text)
  have hheight : (Json.Value.string text).height < Json.depthLimit := Nat.zero_lt_succ _
  exact Json.parse_of_spells hheight hspells

/-- The literal of any text stands on one line between two quotes, and all between them is escaped. In a script as in
JSON it is read to its end and no further, and is the text again, so texts that differ have different literals. -/
theorem literal_read_to_its_end (text : String) :
    (∃ body, (Json.literal text).toList = '"' :: (body ++ ['"']) ∧ Escaped body) ∧
    (∀ c ∈ (Json.literal text).toList, 0x20 ≤ c.toNat) ∧
    Json.Value.parse (Json.literal text) = .ok (.string text) ∧
    (∀ rest, Json.readText ((Json.literal text).toList ++ rest) = .ok (text, rest)) ∧
    evaluate? (Json.literal text).toList = some (pointsOf text) ∧
    (∀ rest p points, p <+: (Json.literal text).toList ++ rest → evaluate? p = some points →
      p = (Json.literal text).toList) ∧
    ∀ other, Json.literal other = Json.literal text ↔ other = text := by
  refine ⟨⟨_, toList_literal text, escaped_flatMap_escape text.toList⟩, ?_, parse_literal text, readText_literal text,
    evaluate?_literal text, fun rest p points => eq_literal_of_prefix, fun other => literal_inj⟩
  intro c hc
  rw [Json.literal, String.toList_ofList] at hc
  exact Json.le_toNat_of_mem_quote hc

/-- A text that ends like a literal whose last quote is escaped. -/
example : (Json.literal "a\\\"").toList = "\"a\\\\\\\"\"".toList := by decide

end ScriptBench.Script
