import Mathlib.Algebra.GroupWithZero.Nat
import ScriptBench.Proofs.Json.Utf16
import ScriptBench.Uuid

/-! Reading the text of an identifier gives the identifier. -/
namespace ScriptBench.Uuid

open Json (hexDigit hexDigit? hexDigit?_hexDigit)
open Text

theorem ungroup?_hyphenate {sizes : List Nat} {cs : List Char} (h : cs.length = sizes.sum) :
    ungroup? sizes (hyphenate sizes cs) = some cs := by
  induction sizes generalizing cs with
  | nil =>
    rw [List.eq_nil_of_length_eq_zero h]
    rfl
  | cons n sizes ih =>
    rw [List.sum_cons] at h
    cases sizes with
    | nil => exact if_pos h
    | cons m sizes =>
      have htake : (cs.take n).length = n := by rw [List.length_take]; omega
      have hrest := @ih (cs.drop n) (by rw [List.length_drop]; omega)
      rw [hyphenate, ungroup?, List.drop_left' htake, List.take_left' htake]
      · simp only [hrest, Option.map_some, List.take_append_drop]
      · exact fun hnil => List.cons_ne_nil m sizes hnil
      · exact fun hnil => List.cons_ne_nil m sizes hnil

/-- One hyphen stands between two groups. -/
theorem length_hyphenate {n : Nat} {sizes : List Nat} {cs : List Char} (h : n + sizes.sum ≤ cs.length) :
    (hyphenate (n :: sizes) cs).length = cs.length + sizes.length := by
  induction sizes generalizing n cs with
  | nil => rfl
  | cons m sizes ih =>
    rw [List.sum_cons] at h
    have hrest := @ih m (cs.drop n) (by rw [List.length_drop]; omega)
    rw [hyphenate]
    · rw [List.length_append, List.length_cons, hrest, List.length_take, List.length_drop, List.length_cons]
      omega
    · exact fun hnil => List.cons_ne_nil m sizes hnil

theorem mem_hyphenate {c : Char} {sizes : List Nat} {cs : List Char} (h : c ∈ hyphenate sizes cs) :
    c ∈ cs ∨ c = '-' := by
  induction sizes generalizing cs with
  | nil => exact Or.inl h
  | cons n sizes ih =>
    cases sizes with
    | nil => exact Or.inl h
    | cons m sizes =>
      rw [hyphenate] at h
      · rw [List.mem_append, List.mem_cons] at h
        rcases h with h | h | h
        · exact Or.inl (List.mem_of_mem_take h)
        · exact Or.inr h
        · exact (ih h).imp_left List.mem_of_mem_drop
      · exact fun hnil => List.cons_ne_nil m sizes hnil

theorem byteCount_of_ascii {cs : List Char} (h : ∀ c ∈ cs, c.utf8Size = 1) : byteCount cs = cs.length := by
  induction cs with
  | nil => rfl
  | cons c cs ih =>
    rw [byteCount_cons, h c (by simp), ih fun d hd => h d (by simp [hd]), List.length_cons, Nat.add_comm]

theorem mapM_hexDigit (digits : List (Fin 16)) :
    (digits.map fun d => hexDigit d.val).mapM (fun c => (hexDigit? c).map (Fin.ofNat 16)) = some digits := by
  induction digits with
  | nil => rfl
  | cons d digits ih =>
    have hd : (hexDigit? (hexDigit d.val)).map (Fin.ofNat 16) = some d := by
      rw [hexDigit?_hexDigit d.isLt, Option.map_some, Fin.ofNat_val_eq_self]
    rw [List.map_cons, List.mapM_cons, hd, ih]
    rfl

/-- Digits with a hyphen among them are not the plain form of an identifier. -/
theorem ofDigits?_of_hyphen {cs : List Char} (h : '-' ∈ cs) : ofDigits? cs = none := by
  have hnone : cs.mapM (fun c => (hexDigit? c).map (Fin.ofNat 16)) = none := by
    induction cs with
    | nil => cases h
    | cons c cs ih =>
      rw [List.mapM_cons]
      rcases List.mem_cons.1 h with rfl | h
      · rfl
      · rw [ih h]
        cases (hexDigit? c).map (Fin.ofNat 16) <;> rfl
  rw [ofDigits?, hnone]
  rfl

theorem ofText?_text (u : Uuid) : ofText? u.text = .ok u := by
  let cs := u.digits.map fun d => hexDigit d.val
  have htext : u.text.toList = hyphenate groupSizes cs := String.toList_ofList
  have hlength : cs.length = 32 := by rw [List.length_map, u.length_eq]
  have hascii : ∀ c ∈ hyphenate groupSizes cs, c.utf8Size = 1 := by
    have hdigit : ∀ d : Fin 16, (hexDigit d.val).utf8Size = 1 := by decide
    intro c hc
    rcases mem_hyphenate hc with hc | rfl
    · obtain ⟨d, _, rfl⟩ := List.mem_map.1 hc
      exact hdigit d
    · rfl
  have hbytes : byteCount (hyphenate groupSizes cs) = 36 := by
    have hsum : 8 + [4, 4, 4, 12].sum ≤ cs.length := Nat.le_of_eq hlength.symm
    rw [byteCount_of_ascii hascii, groupSizes, length_hyphenate hsum, hlength]
    rfl
  have hhyphen : '-' ∈ hyphenate groupSizes cs := List.mem_append_right _ (List.mem_cons_self)
  have hdigits : ofDigits? cs = some u := by
    rw [ofDigits?, mapM_hexDigit]
    exact dif_pos u.length_eq
  have hgroups : ungroup? groupSizes (hyphenate groupSizes cs) = some cs := ungroup?_hyphenate hlength
  rw [ofText?, htext, ofDigits?_of_hyphen hhyphen, hyphenated?, hbytes]
  simp only [Option.orElse_none, Option.bind_some, hgroups, hdigits]

end ScriptBench.Uuid
