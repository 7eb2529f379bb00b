import ScriptBench.Json.Printer
import ScriptBench.Json.Reader

/-! Reading the decimal digits of a natural number gives the number. -/
namespace ScriptBench.Json

open Decimal (digitsOf)

/-- A number ends here: neither a digit nor a point nor an exponent follows. -/
def NumberEnds (rest : List Char) : Prop :=
  ∀ c more, rest = c :: more → c.isDigit = false ∧ c ≠ '.' ∧ isExponentMark c = false

theorem numberEnds_nil : NumberEnds [] := by
  intro c more h
  cases h

theorem isDigit_of_mem_digitsOf {n : Nat} {c : Char} (h : c ∈ digitsOf n) : c.isDigit = true :=
  Nat.isDigit_of_mem_toDigits (by decide) (by decide) h

theorem le_ofDigitChars (ds : List Char) (init : Nat) : init ≤ Nat.ofDigitChars 10 ds init := by
  induction ds generalizing init with
  | nil => simp
  | cons c ds ih =>
    rw [Nat.ofDigitChars_cons]
    have h := ih (10 * init + (c.toNat - '0'.toNat))
    omega

theorem gather_of_digits {ds rest : List Char} (hds : ∀ c ∈ ds, c.isDigit = true)
    (hrest : NumberEnds rest) {init count : Nat} (h : Nat.ofDigitChars 10 ds init < UInt64.size) :
    gather init count (ds ++ rest) = (Nat.ofDigitChars 10 ds init, count + ds.length, rest) := by
  induction ds generalizing init count with
  | nil =>
    cases rest with
    | nil => rfl
    | cons c more => simp [gather, (hrest c more rfl).1]
  | cons c ds ih =>
    rw [Nat.ofDigitChars_cons] at h ⊢
    have hstep : init * 10 + digit c = 10 * init + (c.toNat - '0'.toNat) := by
      rw [Nat.mul_comm, digit]
    have hle := le_ofDigitChars ds (10 * init + (c.toNat - '0'.toNat))
    have hfits : init * 10 + digit c < UInt64.size := by omega
    rw [List.cons_append, gather, hds c (by simp)]
    simp only [hfits, decide_true, Bool.and_self, if_true]
    rw [hstep, ih (fun d hd => hds d (by simp [hd])) h]
    simp only [List.length_cons, Prod.mk.injEq, and_true, true_and]
    omega

theorem readAfterDigits_of_ends {negative : Bool} {n : Nat} {rest : List Char} (h : NumberEnds rest) :
    readAfterDigits negative n rest = .ok (integer negative n, rest) := by
  cases rest with
  | nil => rfl
  | cons c more =>
    obtain ⟨_, hpoint, hmark⟩ := h c more rfl
    simp [readAfterDigits, hpoint, hmark]

/-- Only zero starts with the digit zero. -/
theorem exists_cons_digitsOf {n : Nat} (hn : n ≠ 0) : ∃ c ds, digitsOf n = c :: ds ∧ c ≠ '0' := by
  induction n using Nat.strongRecOn with
  | ind n ih =>
    unfold digitsOf
    rw [Nat.toDigits_eq_if (by decide)]
    split
    · exact ⟨_, _, rfl, by simpa using hn⟩
    · obtain ⟨c, ds, hds, hc⟩ := ih (n / 10) (by omega) (by omega)
      unfold digitsOf at hds
      rw [hds]
      exact ⟨c, _, rfl, hc⟩

theorem readDigits_digitsOf {n : Nat} (h : n < UInt64.size) {rest : List Char} (hrest : NumberEnds rest) :
    readDigits false (digitsOf n ++ rest) = .ok (.int n, rest) := by
  by_cases hn : n = 0
  · subst hn
    have hzero : digitsOf 0 = ['0'] := Nat.toDigits_zero 10
    rw [hzero, List.singleton_append]
    unfold readDigits
    cases rest with
    | nil => rfl
    | cons d more =>
      have hd := (hrest d more rfl).1
      simp only [beq_self_eq_true, if_true, hd, Bool.false_eq_true, if_false]
      exact readAfterDigits_of_ends hrest
  · obtain ⟨c, ds, hds, hc⟩ := exists_cons_digitsOf hn
    have hvalue : Nat.ofDigitChars 10 ds (digit c) = n := by
      have hall : Nat.ofDigitChars 10 (digitsOf n) 0 = n := Nat.ofDigitChars_ten_toDigits
      rw [hds, Nat.ofDigitChars_cons] at hall
      simpa [digit] using hall
    have hdigits : ∀ d ∈ digitsOf n, d.isDigit = true := fun d hd => isDigit_of_mem_digitsOf hd
    rw [hds] at hdigits
    have hgather := @gather_of_digits ds rest (fun d hd => hdigits d (by simp [hd])) hrest (digit c) 0
      (by rw [hvalue]; exact h)
    rw [hds, List.cons_append]
    unfold readDigits
    have hzero : (c == '0') = false := by simpa using hc
    simp only [hzero, Bool.false_eq_true, if_false, hdigits c (by simp), if_true, hgather, hvalue]
    cases rest with
    | nil => rfl
    | cons d more =>
      have hd := (hrest d more rfl).1
      simp only [hd, Bool.false_eq_true, if_false]
      exact readAfterDigits_of_ends hrest

/-- A number below `2 ^ 64` is read from its digits. -/
theorem readNumber_digitsOf {n : Nat} (h : n < UInt64.size) {rest : List Char} (hrest : NumberEnds rest) :
    readNumber (digitsOf n ++ rest) = .ok (.int n, rest) := by
  have hread := readDigits_digitsOf h hrest
  cases hds : digitsOf n with
  | nil => exact (Nat.toDigits_ne_nil hds).elim
  | cons c ds =>
    have hc : c ≠ '-' := by
      have := @isDigit_of_mem_digitsOf n c (by simp [hds])
      rintro rfl
      simp at this
    rw [hds] at hread
    rw [List.cons_append] at hread ⊢
    unfold readNumber
    split
    · rename_i more heq
      injection heq with hd _
      exact (hc hd).elim
    · exact hread

end ScriptBench.Json
