import ScriptBench.Proofs.Json.Number
import ScriptBench.Proofs.Json.Record
import ScriptBench.Time.Reader

/-! Reading the text of an instant. Every valid instant is read back from its text: each number stands in front of
a character that is no digit, and the text ends with an offset of zero. -/
namespace ScriptBench.Time

open Decimal (digitsOf)
open Json (bind_eq_ok)
open Text

/-- Digits end here. -/
def NoDigit (rest : List Char) : Prop := ∀ c ∈ rest.head?, c.isDigit = false

theorem noDigit_cons {c : Char} {rest : List Char} (h : c.isDigit = false) : NoDigit (c :: rest) := by
  intro d hd
  cases hd
  exact h

theorem isBlank_of_isDigit {c : Char} (h : c.isDigit = true) : isBlank c = false := by
  have hrange : 48 ≤ c.toNat ∧ c.toNat ≤ 57 := by
    simpa [Char.isDigit, UInt32.le_iff_toNat_le] using h
  simp only [isBlank, Bool.or_eq_false_iff, Bool.and_eq_false_iff, decide_eq_false_iff_not, beq_eq_false_iff_ne]
  omega

theorem trimStart_of_not_blank {c : Char} (h : isBlank c = false) (rest : List Char) :
    trimStart (c :: rest) = c :: rest := by
  rw [trimStart, List.dropWhile_cons, h]
  rfl

theorem takeWhile_digits {digits rest : List Char} (hdigits : ∀ c ∈ digits, c.isDigit = true)
    (hrest : NoDigit rest) : (digits ++ rest).takeWhile Char.isDigit = digits := by
  rw [List.takeWhile_append_of_pos hdigits]
  cases rest with
  | nil => rw [List.takeWhile_nil, List.append_nil]
  | cons c rest =>
    have hc := hrest c rfl
    rw [List.takeWhile_cons, hc]
    exact List.append_nil digits

/-- Digits are read as their number if they are few enough. -/
theorem number_digits {width : Option Nat} {digits rest : List Char} (hne : digits ≠ [])
    (hdigits : ∀ c ∈ digits, c.isDigit = true) (hwidth : ∀ w ∈ width, digits.length ≤ w) (hrest : NoDigit rest)
    (hlimit : numberOf digits < 9223372036854775808) :
    number width (digits ++ rest) = .ok (numberOf digits, rest) := by
  have hall := takeWhile_digits hdigits hrest
  cases digits with
  | nil => exact (hne rfl).elim
  | cons d digits =>
    unfold number
    rw [hall]
    cases width with
    | none => simp [hlimit]
    | some w =>
      have htake : (d :: digits).take w = d :: digits := List.take_of_length_le (hwidth w rfl)
      simp [htake, hlimit]

/-! Padded numbers -/

namespace Instant

theorem isDigit_of_mem_padded {width n : Nat} {c : Char} (h : c ∈ padded width n) : c.isDigit = true := by
  rw [padded, List.mem_append, List.mem_replicate] at h
  rcases h with ⟨_, rfl⟩ | h
  · rfl
  · exact Json.isDigit_of_mem_digitsOf h

theorem numberOf_padded (width n : Nat) : numberOf (padded width n) = n := by
  change Nat.ofDigitChars 10 (padded width n) 0 = n
  rw [padded, Nat.ofDigitChars_append, Nat.ofDigitChars_replicate_zero, Nat.mul_zero]
  exact Nat.ofDigitChars_ten_toDigits

theorem padded_ne_nil (width n : Nat) : padded width n ≠ [] := by
  intro h
  exact Nat.toDigits_ne_nil (List.append_eq_nil_iff.1 h).2

/-- A number that fits takes up just its width. -/
theorem length_padded {width n : Nat} (hwidth : 0 < width) (hn : n < Nat.pow 10 width) :
    (padded width n).length = width := by
  have hle : (digitsOf n).length ≤ width := (Nat.length_toDigits_le_iff (by decide) hwidth).2 hn
  rw [padded, List.length_append, List.length_replicate]
  omega

end Instant

open Instant

theorem number_padded {width n : Nat} {rest : List Char} (hwidth : 0 < width) (hlarge : width ≤ 18)
    (hn : n < Nat.pow 10 width) (hrest : NoDigit rest) :
    number (some width) (padded width n ++ rest) = .ok (n, rest) := by
  have hpow : Nat.pow 10 width ≤ 1000000000000000000 := Nat.pow_le_pow_right (by decide) hlarge
  have hread := @number_digits (some width) (padded width n) rest (padded_ne_nil width n)
    (fun c hc => isDigit_of_mem_padded hc)
    (by intro w hw; cases hw; exact Nat.le_of_eq (length_padded hwidth hn)) hrest
    (by rw [numberOf_padded]; omega)
  rwa [numberOf_padded] at hread

/-- No blank stands in front of a padded number. -/
theorem trimStart_padded (width n : Nat) (rest : List Char) :
    trimStart (padded width n ++ rest) = padded width n ++ rest := by
  cases h : padded width n with
  | nil => exact (padded_ne_nil width n h).elim
  | cons c more =>
    have hdigit : c.isDigit = true := @isDigit_of_mem_padded width n c (by rw [h]; simp)
    exact trimStart_of_not_blank (isBlank_of_isDigit hdigit) _

theorem part_padded {low high n : Nat} {rest : List Char} (hhigh : high < 100) (hn : low ≤ n ∧ n ≤ high)
    (hrest : NoDigit rest) : part low high (padded 2 n ++ rest) = .ok (n, rest) := by
  rw [part, trimStart_padded, number_padded (by decide) (by decide) (show n < 100 by omega) hrest]
  exact if_pos hn

/-- A year without a sign is read from at most four digits. -/
theorem year_of_number {text rest : List Char} {n : Nat} (htext : ∀ c ∈ text.head?, c.isDigit = true)
    (hn : n < 2147483648) (h : number (some 4) text = .ok (n, rest)) : year text = .ok ((n : Int), rest) := by
  have hrange : -2147483648 ≤ (n : Int) ∧ (n : Int) < 2147483648 := by omega
  cases text with
  | nil => cases h
  | cons c text =>
    have hdigit := htext c rfl
    unfold year
    rw [trimStart_of_not_blank (isBlank_of_isDigit hdigit)]
    split
    case h_1 heq =>
      cases heq
      cases hdigit
    case h_2 heq =>
      cases heq
      cases hdigit
    case h_3 =>
      simp only [h, Except.map, bind, Except.bind]
      rw [if_pos hrange]
      rfl

theorem year_minus {text rest : List Char} {n : Nat} (hn : n ≤ 2147483648)
    (h : number none text = .ok (n, rest)) : year ('-' :: text) = .ok (-(n : Int), rest) := by
  have hrange : -2147483648 ≤ -(n : Int) ∧ -(n : Int) < 2147483648 := by omega
  unfold year
  rw [trimStart_of_not_blank (by decide)]
  simp only [h, Except.map, bind, Except.bind]
  rw [if_pos hrange]
  rfl

theorem year_plus {text rest : List Char} {n : Nat} (hn : n < 2147483648)
    (h : number none text = .ok (n, rest)) : year ('+' :: text) = .ok ((n : Int), rest) := by
  have hrange : -2147483648 ≤ (n : Int) ∧ (n : Int) < 2147483648 := by omega
  unfold year
  rw [trimStart_of_not_blank (by decide)]
  simp only [h, Except.map, bind, Except.bind]
  rw [if_pos hrange]
  rfl

theorem year_yearText {y : Int} {rest : List Char} (hlow : -262143 ≤ y) (hhigh : y ≤ 262142)
    (hrest : NoDigit rest) : year (yearText y ++ rest) = .ok (y, rest) := by
  have hlong : number none (padded 4 y.natAbs ++ rest) = .ok (y.natAbs, rest) := by
    have hread := @number_digits none (padded 4 y.natAbs) rest (padded_ne_nil _ _)
      (fun c hc => isDigit_of_mem_padded hc) (by simp) hrest (by rw [numberOf_padded]; omega)
    rwa [numberOf_padded] at hread
  unfold yearText
  by_cases hplain : 0 ≤ y ∧ y ≤ 9999
  · have hread := @number_padded 4 y.toNat rest (by decide) (by decide) (show y.toNat < 10000 by omega) hrest
    have hfirst : ∀ c ∈ (padded 4 y.toNat ++ rest).head?, c.isDigit = true := by
      intro c hc
      cases hpadded : padded 4 y.toNat with
      | nil => exact (padded_ne_nil _ _ hpadded).elim
      | cons d more =>
        rw [hpadded] at hc
        cases hc
        exact @isDigit_of_mem_padded 4 y.toNat _ (by rw [hpadded]; simp)
    rw [if_pos hplain, year_of_number hfirst (by omega) hread, Int.toNat_of_nonneg hplain.1]
  · rw [if_neg hplain, List.cons_append]
    by_cases hneg : y < 0
    · have hy : -(y.natAbs : Int) = y := by omega
      rw [if_pos hneg, year_minus (by omega) hlong, hy]
    · have hy : (y.natAbs : Int) = y := by omega
      rw [if_neg hneg, year_plus (by omega) hlong, hy]

/-- Digits that end with the last of a fraction are read as its nanoseconds. -/
theorem fraction_padded {width n : Nat} {rest : List Char} (hwidth : 0 < width) (hlarge : width ≤ 9)
    (hn : n < Nat.pow 10 width) (hrest : NoDigit rest) :
    fraction ('.' :: (padded width n ++ rest)) = .ok (n * Nat.pow 10 (9 - width), rest) := by
  have hlength := length_padded hwidth hn
  have hread : number (some 9) (padded width n ++ rest) = .ok (n, rest) := by
    have hpow : Nat.pow 10 width ≤ 1000000000 := Nat.pow_le_pow_right (by decide) hlarge
    have hread := @number_digits (some 9) (padded width n) rest (padded_ne_nil _ _)
      (fun c hc => isDigit_of_mem_padded hc) (by intro w hw; cases hw; omega) hrest
      (by rw [numberOf_padded]; omega)
    rwa [numberOf_padded] at hread
  have hdrop : rest.dropWhile Char.isDigit = rest := by
    cases rest with
    | nil => rfl
    | cons c rest => rw [List.dropWhile_cons, hrest c rfl]; rfl
  have hsize : (padded width n ++ rest).length - rest.length = width := by
    rw [List.length_append, hlength]
    omega
  unfold fraction
  simp only [hread, bind, Except.bind]
  rw [hsize, hdrop]
  rfl

theorem fraction_fractionText {n : Nat} (hn : n < 1000000000) {rest : List Char} (hrest : NoDigit rest)
    (hpoint : ∀ c ∈ rest.head?, c ≠ '.') : fraction (fractionText n ++ rest) = .ok (n, rest) := by
  unfold fractionText
  split
  · rename_i hzero
    unfold fraction
    split
    · rename_i more heq
      rw [List.nil_append] at heq
      exact (hpoint '.' (by rw [heq]; rfl) rfl).elim
    · rw [hzero, List.nil_append]
  · split
    · have hvalue : n / 1000000 * Nat.pow 10 6 = n := by
        change n / 1000000 * 1000000 = n
        omega
      rw [List.cons_append,
        fraction_padded (by decide) (by decide) (show n / 1000000 < 1000 by omega) hrest, hvalue]
    · split
      · have hvalue : n / 1000 * Nat.pow 10 3 = n := by
          change n / 1000 * 1000 = n
          omega
        rw [List.cons_append, fraction_padded (by decide) (by decide) (show n / 1000 < 1000000 by omega) hrest,
          hvalue]
      · have hvalue : n * Nat.pow 10 0 = n := Nat.mul_one n
        rw [List.cons_append, fraction_padded (by decide) (by decide) (show n < 1000000000 from hn) hrest, hvalue]

theorem mark_cons {c : Char} (h : isBlank c = false) (rest : List Char) : mark c (c :: rest) = .ok rest := by
  rw [mark, trimStart_of_not_blank h]
  exact if_pos rfl

/-! Instants -/

theorem daysInMonth_le (year : Int) (month : Nat) : daysInMonth year month ≤ 31 := by
  unfold daysInMonth
  split
  · split <;> decide
  all_goals decide

theorem day_text {d : Day} (h : d.IsValid) {rest : List Char} (hrest : NoDigit rest) :
    day (yearText d.year ++ '-' :: (padded 2 d.month ++ '-' :: (padded 2 d.day ++ rest))) = .ok (d, rest) := by
  obtain ⟨hlow, hhigh, hmonth, hmonth', hday, hday'⟩ := h
  have hlast := daysInMonth_le d.year d.month
  have hhyphen : ∀ rest, NoDigit ('-' :: rest) := fun _ => noDigit_cons rfl
  refine bind_eq_ok.2 ⟨_, year_yearText hlow hhigh (hhyphen _), ?_⟩
  refine bind_eq_ok.2 ⟨_, mark_cons (by decide) _, ?_⟩
  refine bind_eq_ok.2 ⟨_, part_padded (by decide) ⟨hmonth, hmonth'⟩ (hhyphen _), ?_⟩
  refine bind_eq_ok.2 ⟨_, mark_cons (by decide) _, ?_⟩
  refine bind_eq_ok.2 ⟨_, part_padded (by decide) ⟨hday, by omega⟩ hrest, ?_⟩
  rfl

/-- A valid instant is read from its text. -/
theorem Instant.read_text {t : Instant} (h : t.IsValid) : Instant.read t.text.toList = .ok t := by
  obtain ⟨hdate, hminutes, hsecond, hnano⟩ := h
  have hsplit : t.text.toList = yearText t.date.year ++ '-' :: (padded 2 t.date.month ++ '-' ::
      (padded 2 t.date.day ++ 'T' :: (padded 2 (t.minutes / 60) ++ ':' :: (padded 2 (t.minutes % 60) ++ ':' ::
        (padded 2 t.second ++ (fractionText t.nanosecond ++ ['Z'])))))) := by
    simp only [text, String.toList_ofList, List.append_assoc, List.cons_append]
  have hcolon : ∀ rest, NoDigit (':' :: rest) := fun _ => noDigit_cons rfl
  have hend : NoDigit (fractionText t.nanosecond ++ ['Z']) := by
    unfold fractionText
    split
    · exact noDigit_cons rfl
    · split
      · exact noDigit_cons rfl
      · split <;> exact noDigit_cons rfl
  have hclock : t.minutes / 60 * 60 + t.minutes % 60 = t.minutes := by omega
  have hdivider : ∀ rest, divider ('T' :: rest) = .ok rest := fun _ => rfl
  have hoffset : offset (trimStart ['Z']) = .ok (0, []) := rfl
  have hutc : Instant.fromOffset t 0 = t := by
    have hback : (t.minutes : Int) - 0 = t.minutes := by omega
    simp only [fromOffset, hback]
    rw [if_neg (by omega), if_neg (by omega), Int.toNat_natCast]
  have hlimits : t.date.IsValid ∧ (-1440 : Int) < 0 ∧ (0 : Int) < 1440 := ⟨hdate, by decide, by decide⟩
  rw [hsplit]
  refine bind_eq_ok.2 ⟨_, day_text hdate (noDigit_cons rfl), ?_⟩
  refine bind_eq_ok.2 ⟨_, hdivider _, ?_⟩
  refine bind_eq_ok.2 ⟨_, part_padded (by decide) ⟨by omega, by omega⟩ (hcolon _), ?_⟩
  refine bind_eq_ok.2 ⟨_, mark_cons (by decide) _, ?_⟩
  refine bind_eq_ok.2 ⟨_, part_padded (by decide) ⟨by omega, by omega⟩ (hcolon _), ?_⟩
  refine bind_eq_ok.2 ⟨_, mark_cons (by decide) _, ?_⟩
  refine bind_eq_ok.2 ⟨_, part_padded (by decide) ⟨by omega, hsecond⟩ hend, ?_⟩
  refine bind_eq_ok.2 ⟨_, fraction_fractionText hnano (noDigit_cons rfl) (by simp), ?_⟩
  refine bind_eq_ok.2 ⟨_, hoffset, ?_⟩
  rw [hclock]
  change (if t.date.IsValid ∧ (-1440 : Int) < 0 ∧ (0 : Int) < 1440 then
    if (t.fromOffset 0).date.IsValid then Except.ok (t.fromOffset 0) else .error Fault.impossible
    else .error Fault.outOfRange) = _
  rw [if_pos hlimits, hutc, if_pos hdate]

end ScriptBench.Time
