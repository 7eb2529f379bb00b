import ScriptBench.Proofs.Json.Member
import ScriptBench.Proofs.Json.Record

/-! Texts in quotes. A quoted text is read back whatever stands in it, so no two texts have the same quotation,
and it stays on one line. -/
namespace ScriptBench.Json

theorem toNat_ne {c d : Char} (h : c ≠ d) : c.toNat ≠ d.toNat := fun hnat => h (Char.toNat_inj.1 hnat)

/-- Up to the tilde a character is escaped as in ASCII, and any other stands for itself. -/
theorem escape_eq (c : Char) : escape c = if c.toNat ≤ 0x7E then asciiUnit c.toNat else [c] := by
  unfold escape
  split
  case h_8 hquote hslash hback hform hfeed hreturn htab =>
    have hquote : c.toNat ≠ 0x22 := toNat_ne hquote
    have hslash : c.toNat ≠ 0x5C := toNat_ne hslash
    have hback : c.toNat ≠ 0x08 := toNat_ne hback
    have hform : c.toNat ≠ 0x0C := toNat_ne hform
    have hfeed : c.toNat ≠ 0x0A := toNat_ne hfeed
    have hreturn : c.toNat ≠ 0x0D := toNat_ne hreturn
    have htab : c.toNat ≠ 0x09 := toNat_ne htab
    rw [asciiUnit, if_neg hquote, if_neg hslash, if_neg hback, if_neg hform, if_neg hfeed, if_neg hreturn,
      if_neg htab]
    by_cases hcontrol : c.toNat < 0x20
    · have h₁ : c.toNat / 0x1000 = 0 := by omega
      have h₂ : c.toNat / 0x100 % 16 = 0 := by omega
      have h₃ : c.toNat / 16 % 16 = c.toNat / 16 := by omega
      rw [if_pos hcontrol, if_pos (by omega), if_neg (by omega), hexDigits, h₁, h₂, h₃]
      rfl
    · by_cases hascii : c.toNat ≤ 0x7E
      · rw [if_neg hcontrol, if_pos hascii, if_pos ⟨by omega, hascii⟩, Char.ofNat_toNat]
      · rw [if_neg hcontrol, if_neg hascii]
  all_goals rfl

theorem readChars_escape (c : Char) (rest : List Char) :
    (readChars (escape c ++ rest)).toOption = (readChars rest).toOption.map fun p => (c :: p.1, p.2) := by
  rw [escape_eq]
  by_cases hascii : c.toNat ≤ 0x7E
  · have hhigh : isHighHalf c.toNat = false := by simp [isHighHalf]; omega
    have hlow : isLowHalf c.toNat = false := by simp [isLowHalf]; omega
    rw [if_pos hascii, readChars_asciiUnit (by omega) hhigh hlow, Char.ofNat_toNat]
  · have hquote : c ≠ '"' := by
      rintro rfl
      exact hascii (by decide)
    have hslash : c ≠ '\\' := by
      rintro rfl
      exact hascii (by decide)
    have hcontrol : isControl c = false := by simp [isControl]; omega
    rw [if_neg hascii, List.singleton_append, readChars_of_plain hquote hslash hcontrol]

/-- Behind the opening quote of a quotation its text is read, and what follows the closing quote is left. -/
theorem readChars_quote (text rest : List Char) :
    readChars (text.flatMap escape ++ '"' :: rest) = .ok (text, rest) := by
  refine eq_ok_of_toOption ?_
  induction text with
  | nil =>
    rw [List.flatMap_nil, List.nil_append, readChars, if_pos rfl]
    rfl
  | cons c text ih =>
    rw [List.flatMap_cons, List.append_assoc, readChars_escape, ih]
    rfl

theorem readString_quote (text : String) (rest : List Char) :
    readString (text.toList.flatMap escape ++ '"' :: rest) = .ok (text, rest) := by
  rw [readString, readChars_quote]
  change Except.ok (String.ofList text.toList, rest) = _
  rw [String.ofList_toList]

theorem quote_inj {a b : List Char} : quote a = quote b ↔ a = b := by
  constructor
  · intro h
    have htail : a.flatMap escape ++ '"' :: [] = b.flatMap escape ++ '"' :: [] := (List.cons.inj h).2
    have ha := readChars_quote a []
    rw [htail, readChars_quote] at ha
    injection ha with ha
    exact (Prod.mk.inj ha).1.symm
  · rintro rfl
    rfl

/-- A quotation has no control characters. -/
theorem le_toNat_of_mem_quote {text : List Char} {c : Char} (h : c ∈ quote text) : 0x20 ≤ c.toNat := by
  have hescape : ∀ d, c ∈ escape d → 0x20 ≤ c.toNat := by
    intro d hc
    rw [escape_eq] at hc
    split at hc
    · exact (printable_asciiUnit (by omega) c hc).1
    · rw [List.mem_singleton.1 hc]
      omega
  simp only [quote, List.cons_append, List.mem_cons, List.mem_append, List.not_mem_nil, or_false] at h
  rcases h with rfl | h | rfl
  · decide
  · obtain ⟨d, _, hc⟩ := List.mem_flatMap.1 h
    exact hescape d hc
  · decide

end ScriptBench.Json
