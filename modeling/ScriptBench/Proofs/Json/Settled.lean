import ScriptBench.Proofs.Json.Spelling
import ScriptBench.Proofs.Text.Lines

/-! Numbers and strings as JSON writes them. What is read from one of them, or that it is refused, does not depend on
what stands behind it. -/
namespace ScriptBench.Json

open Text

/-- What a reader makes of a text is the same whatever stands behind it, if the text ends there. -/
def Settled {α : Type} (read : Reader α) (ends : List Char → Prop) (text : List Char) : Prop :=
  ∃ a? : Option α, ∀ rest, ends rest → (read (text ++ rest)).toOption = a?.map (·, rest)

/-! Numbers -/

/-- One digit or more. -/
structure Digits (text : List Char) : Prop where
  ne_nil : text ≠ []
  isDigit : ∀ c ∈ text, c.isDigit = true

inductive WrittenFraction : List Char → Prop
  | none : WrittenFraction []
  | some {digits : List Char} (h : Digits digits) : WrittenFraction ('.' :: digits)

inductive WrittenExponent : List Char → Prop
  | none : WrittenExponent []
  | some {mark : Char} {sign digits : List Char} (hmark : isExponentMark mark = true)
      (hsign : sign ∈ [[], ['+'], ['-']]) (h : Digits digits) : WrittenExponent (mark :: (sign ++ digits))

/-- A number has no zero in front of other digits. It may have any size. -/
inductive WrittenNumber : List Char → Prop
  | intro {sign whole fraction exponent : List Char} (hsign : sign ∈ [[], ['-']]) (hdigits : Digits whole)
      (hzero : whole.head? = some '0' → whole = ['0']) (hfraction : WrittenFraction fraction)
      (hexponent : WrittenExponent exponent) : WrittenNumber (sign ++ (whole ++ (fraction ++ exponent)))

section

variable {negative : Bool} {significand : Nat} {exponent : Int} {text digits : List Char}

theorem NumberEnds.head? {rest : List Char} (h : NumberEnds rest) : ∀ c ∈ rest.head?, c.isDigit = false := by
  cases rest with
  | nil => nofun
  | cons d rest =>
    rintro c ⟨rfl⟩
    exact (h d rest rfl).1

theorem isDigit_of_mark {c : Char} (h : isExponentMark c = true) : c.isDigit = false := by
  simp only [isExponentMark, Bool.or_eq_true, beq_iff_eq] at h
  rcases h with rfl | rfl <;> rfl

/-- No digit stands behind the digits of a number. -/
theorem head?_behind {fraction exponent rest : List Char} (hfraction : WrittenFraction fraction)
    (hexponent : WrittenExponent exponent) (hrest : NumberEnds rest) :
    ∀ c ∈ (fraction ++ (exponent ++ rest)).head?, c.isDigit = false := by
  cases hfraction with
  | some =>
    rintro c ⟨rfl⟩
    rfl
  | none =>
    cases hexponent with
    | some hmark =>
      rintro c ⟨rfl⟩
      exact isDigit_of_mark hmark
    | none => exact hrest.head?

theorem head?_ne_point {exponent rest : List Char} (hexponent : WrittenExponent exponent) (hrest : NumberEnds rest) :
    ∀ c ∈ (exponent ++ rest).head?, c ≠ '.' := by
  cases hexponent with
  | some hmark =>
    rintro c ⟨rfl⟩ rfl
    cases hmark
  | none =>
    cases rest with
    | nil => nofun
    | cons d rest =>
      rintro c ⟨rfl⟩
      exact (hrest d rest rfl).2.1

theorem toOption_scaled (negative : Bool) (significand : Nat) (exponent : Int) (rest : List Char) :
    (scaled negative significand exponent rest).toOption =
      (Decimal.Double.ofParts? negative significand exponent).map fun x => (.float x, rest) := by
  rw [scaled]
  cases Decimal.Double.ofParts? negative significand exponent <;> rfl

theorem settled_exponentDigits (hdigits : ∀ c ∈ digits, c.isDigit = true) (down : Bool) (read : Nat) :
    Settled (readExponentDigits negative significand exponent down read) NumberEnds digits := by
  induction digits generalizing read with
  | nil =>
    let power := if down then exponent - read else exponent + read
    refine ⟨(Decimal.Double.ofParts? negative significand power).map .float, fun rest hrest => ?_⟩
    rw [List.nil_append, Option.map_map]
    cases rest with
    | nil => exact toOption_scaled negative significand power []
    | cons c rest =>
      rw [readExponentDigits, (hrest c rest rfl).1, if_neg Bool.false_ne_true]
      exact toOption_scaled negative significand power (c :: rest)
  | cons d digits ih =>
    have hd : d.isDigit = true := hdigits d (by simp)
    have hmore : ∀ c ∈ digits, c.isDigit = true := fun c hc => hdigits c (by simp [hc])
    by_cases hlarge : 2147483648 ≤ read * 10 + digit d
    · by_cases hrange : significand ≠ 0 ∧ ¬down
      · refine ⟨none, fun rest _ => ?_⟩
        rw [List.cons_append, readExponentDigits, if_pos hd, if_pos hlarge, if_pos hrange]
        rfl
      · refine ⟨(Decimal.Double.ofParts? negative 0 0).map .float, fun rest hrest => ?_⟩
        rw [List.cons_append, readExponentDigits, if_pos hd, if_pos hlarge, if_neg hrange,
          dropWhile_append_of_head? hmore hrest.head?, toOption_scaled, Option.map_map]
        rfl
    · obtain ⟨n?, hn⟩ := ih hmore (read * 10 + digit d)
      refine ⟨n?, fun rest hrest => ?_⟩
      rw [List.cons_append, readExponentDigits, if_pos hd, if_neg hlarge, hn rest hrest]

theorem settled_exponent {sign : List Char} (hsign : sign ∈ [[], ['+'], ['-']]) (h : Digits digits) :
    Settled (readExponent negative significand exponent) NumberEnds (sign ++ digits) := by
  obtain ⟨hne, hdigits⟩ := h
  obtain ⟨d, digits, rfl⟩ := List.exists_cons_of_ne_nil hne
  have hd : d.isDigit = true := hdigits d (by simp)
  obtain ⟨n?, hn⟩ := @settled_exponentDigits negative significand exponent digits (fun c hc => hdigits c (by simp [hc]))
    (sign == ['-']) (digit d)
  refine ⟨n?, fun rest hrest => ?_⟩
  rw [← hn rest hrest, List.append_assoc, List.cons_append]
  simp only [List.mem_cons, List.not_mem_nil, or_false] at hsign
  rcases hsign with rfl | rfl | rfl
  · rw [List.nil_append, readExponent]
    · simp only [hd, if_true]
      rfl
    · rintro _ ⟨⟩
      cases hd
    · rintro _ ⟨⟩
      cases hd
  · simp only [readExponent, List.cons_append, List.nil_append, hd, if_true]
    rfl
  · simp only [readExponent, List.cons_append, List.nil_append, hd, if_true]
    rfl

theorem settled_scale {scale : List Char} (h : WrittenExponent scale) :
    Settled (readScale negative significand exponent) NumberEnds scale := by
  cases h with
  | none =>
    refine ⟨(Decimal.Double.ofParts? negative significand exponent).map .float, fun rest hrest => ?_⟩
    rw [List.nil_append, Option.map_map]
    cases rest with
    | nil => exact toOption_scaled negative significand exponent []
    | cons c rest =>
      rw [readScale, (hrest c rest rfl).2.2, if_neg Bool.false_ne_true]
      exact toOption_scaled negative significand exponent (c :: rest)
  | some hmark hsign h =>
    obtain ⟨n?, hn⟩ := @settled_exponent negative significand exponent _ _ hsign h
    refine ⟨n?, fun rest hrest => ?_⟩
    rw [List.cons_append, readScale, if_pos hmark, hn rest hrest]

/-- How many digits the significand takes does not depend on what stands behind them. -/
theorem gather_append (hdigits : ∀ c ∈ digits, c.isDigit = true) (significand count : Nat) :
    ∃ s n front, (∀ c ∈ front, c.isDigit = true) ∧ ∀ tail, (∀ c ∈ tail.head?, c.isDigit = false) →
      gather significand count (digits ++ tail) = (s, n, front ++ tail) := by
  induction digits generalizing significand count with
  | nil =>
    refine ⟨significand, count, [], by simp, fun tail htail => ?_⟩
    cases tail with
    | nil => rfl
    | cons c tail =>
      have hc := htail c rfl
      simp [gather, hc]
  | cons d digits ih =>
    have hd : d.isDigit = true := hdigits d (by simp)
    by_cases hfits : significand * 10 + digit d < UInt64.size
    · obtain ⟨s, n, front, hfront, hall⟩ := ih (fun c hc => hdigits c (by simp [hc]))
        (significand * 10 + digit d) (count + 1)
      refine ⟨s, n, front, hfront, fun tail htail => ?_⟩
      rw [List.cons_append, gather, hd, decide_eq_true hfits, Bool.and_self, if_pos rfl, hall tail htail]
    · refine ⟨significand, count, d :: digits, hdigits, fun tail _ => ?_⟩
      rw [List.cons_append, gather, decide_eq_false hfits, Bool.and_false, if_neg Bool.false_ne_true]

theorem settled_fraction (h : Digits digits) {scale : List Char} (hscale : WrittenExponent scale) :
    Settled (readFraction negative significand exponent) NumberEnds (digits ++ scale) := by
  obtain ⟨hne, hdigits⟩ := h
  obtain ⟨d, more, rfl⟩ := List.exists_cons_of_ne_nil hne
  have hd : d.isDigit = true := hdigits d (by simp)
  obtain ⟨s, n, front, hfront, hgather⟩ := gather_append hdigits significand 0
  obtain ⟨n?, hn⟩ := @settled_scale negative s (exponent - n) scale hscale
  refine ⟨n?, fun rest hrest => ?_⟩
  have htail : ∀ c ∈ (scale ++ rest).head?, c.isDigit = false := head?_behind .none hscale hrest
  rw [List.append_assoc, List.cons_append, readFraction, if_pos hd, ← List.cons_append, hgather _ htail]
  dsimp only
  rw [dropWhile_append_of_head? hfront htail, hn rest hrest]

theorem settled_afterDigits {fraction scale : List Char} (hfraction : WrittenFraction fraction)
    (hscale : WrittenExponent scale) :
    Settled (readAfterDigits negative significand) NumberEnds (fraction ++ scale) := by
  cases hfraction with
  | some h => exact settled_fraction h hscale
  | none =>
    cases hscale with
    | none =>
      refine ⟨some (integer negative significand), fun rest hrest => ?_⟩
      rw [List.nil_append, List.nil_append, readAfterDigits_of_ends hrest]
      rfl
    | @some mark _ _ hmark hsign h =>
      obtain ⟨n?, hn⟩ := @settled_exponent negative significand 0 _ _ hsign h
      have hpoint : ¬(mark == '.') = true := by
        intro hpoint
        rw [beq_iff_eq.1 hpoint] at hmark
        cases hmark
      refine ⟨n?, fun rest hrest => ?_⟩
      rw [List.nil_append, List.cons_append, readAfterDigits, if_neg hpoint, if_pos hmark, hn rest hrest]

theorem settled_long (hdigits : ∀ c ∈ digits, c.isDigit = true) {fraction scale : List Char}
    (hfraction : WrittenFraction fraction) (hscale : WrittenExponent scale) (count : Nat) :
    Settled (readLong negative significand count) NumberEnds (digits ++ (fraction ++ scale)) := by
  induction digits generalizing count with
  | cons d digits ih =>
    obtain ⟨n?, hn⟩ := ih (fun c hc => hdigits c (by simp [hc])) (count + 1)
    refine ⟨n?, fun rest hrest => ?_⟩
    rw [List.cons_append, List.cons_append, readLong, if_pos (hdigits d (by simp)), hn rest hrest]
  | nil =>
    cases hfraction with
    | some h =>
      obtain ⟨n?, hn⟩ := @settled_fraction negative significand count _ h _ hscale
      exact ⟨n?, hn⟩
    | none =>
      obtain ⟨n?, hn⟩ := @settled_scale negative significand count _ hscale
      refine ⟨n?, fun rest hrest => ?_⟩
      have hhead : ∀ c ∈ (scale ++ rest).head?, c.isDigit = false := head?_behind .none hscale hrest
      have hpoint := head?_ne_point hscale hrest
      rw [← hn rest hrest, List.nil_append, List.nil_append]
      cases htext : scale ++ rest with
      | nil => rfl
      | cons c more =>
        rw [htext] at hhead hpoint
        rw [readLong, hhead c rfl, if_neg Bool.false_ne_true, if_neg (by simpa using hpoint c rfl)]

theorem settled_zero {fraction scale : List Char} (hfraction : WrittenFraction fraction)
    (hscale : WrittenExponent scale) : Settled (readDigits negative) NumberEnds ('0' :: (fraction ++ scale)) := by
  obtain ⟨n?, hn⟩ := @settled_afterDigits negative 0 _ _ hfraction hscale
  refine ⟨n?, fun rest hrest => ?_⟩
  have hhead := head?_behind hfraction hscale hrest
  rw [← hn rest hrest, List.cons_append, List.append_assoc]
  cases htext : fraction ++ (scale ++ rest) with
  | nil => rfl
  | cons c more =>
    rw [htext] at hhead
    simp only [readDigits, beq_self_eq_true, if_true, hhead c rfl, Bool.false_eq_true, if_false]

theorem settled_nonzero {d : Char} (hd : d ≠ '0') (hdigits : ∀ c ∈ d :: digits, c.isDigit = true)
    {fraction scale : List Char} (hfraction : WrittenFraction fraction) (hscale : WrittenExponent scale) :
    Settled (readDigits negative) NumberEnds (d :: (digits ++ (fraction ++ scale))) := by
  have hzero : (d == '0') = false := by simpa using hd
  have hmore : ∀ c ∈ digits, c.isDigit = true := fun c hc => hdigits c (by simp [hc])
  obtain ⟨s, n, front, hfront, hgather⟩ := gather_append hmore (digit d) 0
  cases front with
  | nil =>
    obtain ⟨n?, hn⟩ := @settled_afterDigits negative s _ _ hfraction hscale
    refine ⟨n?, fun rest hrest => ?_⟩
    have hhead := head?_behind hfraction hscale hrest
    have hall := hgather _ hhead
    rw [← hn rest hrest, List.cons_append, List.append_assoc, List.append_assoc]
    simp only [readDigits, hzero, Bool.false_eq_true, if_false, hdigits d (by simp), if_true, hall, List.nil_append]
    cases htext : fraction ++ (scale ++ rest) with
    | nil => rfl
    | cons c more =>
      rw [htext] at hhead
      simp only [hhead c rfl, Bool.false_eq_true, if_false]
  | cons c front =>
    obtain ⟨n?, hn⟩ := @settled_long negative s _ hfront _ _ hfraction hscale 0
    refine ⟨n?, fun rest hrest => ?_⟩
    have hall := hgather _ (head?_behind hfraction hscale hrest)
    rw [← hn rest hrest, List.cons_append, List.append_assoc, List.append_assoc, List.append_assoc]
    simp only [readDigits, hzero, Bool.false_eq_true, if_false, hdigits d (by simp), if_true, hall,
      List.cons_append, hfront c (by simp), List.append_assoc]

theorem settled_digits (hdigits : Digits digits) (hzero : digits.head? = some '0' → digits = ['0'])
    {fraction scale : List Char} (hfraction : WrittenFraction fraction) (hscale : WrittenExponent scale) :
    Settled (readDigits negative) NumberEnds (digits ++ (fraction ++ scale)) := by
  obtain ⟨d, digits, rfl⟩ := List.exists_cons_of_ne_nil hdigits.ne_nil
  by_cases hd : d = '0'
  · subst hd
    cases hzero rfl
    exact @settled_zero negative fraction scale hfraction hscale
  · exact settled_nonzero hd hdigits.isDigit hfraction hscale

/-- What is read from a number, or that it is out of range, does not depend on what stands behind it. -/
theorem settled_number (h : WrittenNumber text) : Settled readNumber NumberEnds text := by
  obtain ⟨hsign, hdigits, hzero, hfraction, hexponent⟩ := h
  simp only [List.mem_cons, List.not_mem_nil, or_false] at hsign
  rcases hsign with rfl | rfl
  · obtain ⟨n?, hn⟩ := @settled_digits false _ hdigits hzero _ _ hfraction hexponent
    obtain ⟨d, digits, rfl⟩ := List.exists_cons_of_ne_nil hdigits.ne_nil
    refine ⟨n?, fun rest hrest => ?_⟩
    rw [← hn rest hrest]
    simp only [List.cons_append, List.nil_append]
    rw [readNumber]
    rintro _ ⟨⟩
    cases hdigits.isDigit '-' (by simp)
  · obtain ⟨n?, hn⟩ := @settled_digits true _ hdigits hzero _ _ hfraction hexponent
    exact ⟨n?, hn⟩

end

/-! Strings -/

/-- Characters as they may stand in a string. An escape may be half of a pair without the other half. -/
inductive Quoted : List Char → Prop
  | nil : Quoted []
  | plain {c : Char} {text : List Char} (hquote : c ≠ '"') (hslash : c ≠ '\\') (hcontrol : isControl c = false)
      (h : Quoted text) : Quoted (c :: text)
  | letter {x c : Char} {text : List Char} (hx : unescape? x = some c) (h : Quoted text) : Quoted ('\\' :: x :: text)
  | unit {d₁ d₂ d₃ d₄ : Char} {n : Nat} {text : List Char} (hn : hexUnit? d₁ d₂ d₃ d₄ = some n) (h : Quoted text) :
      Quoted ('\\' :: 'u' :: d₁ :: d₂ :: d₃ :: d₄ :: text)

/-- The characters behind the first half of a pair, with the character of the pair in front. -/
def readPaired (high : Nat) (text : List Char) : Option (List Char × List Char) :=
  (readLowHalf high text).toOption.bind fun p => (readChars p.2).toOption.map fun q => (p.1 :: q.1, q.2)

theorem readChars_unit {d₁ d₂ d₃ d₄ : Char} {n : Nat} (hn : hexUnit? d₁ d₂ d₃ d₄ = some n) (rest : List Char) :
    (readChars ('\\' :: 'u' :: d₁ :: d₂ :: d₃ :: d₄ :: rest)).toOption =
      if isLowHalf n then none
      else if isHighHalf n then readPaired n rest
      else (readChars rest).toOption.map fun p => (Char.ofNat n :: p.1, p.2) := by
  have hescape : readEscape ('u' :: d₁ :: d₂ :: d₃ :: d₄ :: rest) =
      if isLowHalf n then .error (.before .loneSurrogate rest)
      else if isHighHalf n then readLowHalf n rest
      else .ok (Char.ofNat n, rest) := by
    rw [readEscape, if_pos rfl, readCodeUnits, readUnit_of_hexUnit? hn]
  by_cases hlow : isLowHalf n = true
  · rw [if_pos hlow] at hescape ⊢
    exact readChars_of_bad_escape (by rw [hescape]; rfl)
  · rw [if_neg hlow] at hescape ⊢
    by_cases hhigh : isHighHalf n = true
    · rw [if_pos hhigh] at hescape ⊢
      rw [readPaired]
      cases hpair : readLowHalf n rest with
      | error f => exact readChars_of_bad_escape (by rw [hescape, hpair]; rfl)
      | ok p => exact readChars_of_escape (by rw [hescape, hpair])
    · rw [if_neg hhigh] at hescape ⊢
      exact readChars_of_escape hescape

theorem readPaired_unit {d₁ d₂ d₃ d₄ : Char} {n : Nat} (hn : hexUnit? d₁ d₂ d₃ d₄ = some n) (high : Nat)
    (rest : List Char) :
    readPaired high ('\\' :: 'u' :: d₁ :: d₂ :: d₃ :: d₄ :: rest) =
      if isLowHalf n then (readChars rest).toOption.map fun p => (ofPair high n :: p.1, p.2) else none := by
  rw [readPaired, readLowHalf, readUnit_of_hexUnit? hn]
  dsimp only
  by_cases hlow : isLowHalf n = true
  · rw [if_pos hlow, if_pos hlow, Except.toOption, Option.bind_some, ofPair]
  · rw [if_neg hlow, if_neg hlow]
    rfl

/-- Only an escape by code units can be the second half of a pair. -/
theorem readPaired_other {c : Char} {rest : List Char} (high : Nat) (h : ∀ more, c :: rest ≠ '\\' :: 'u' :: more) :
    readPaired high (c :: rest) = none := by
  rw [readPaired]
  unfold readLowHalf
  split
  · rfl
  · rfl
  · rename_i heq
    exact (h _ heq).elim
  · rfl
  · rfl

/-- Characters of a string are read, or refused, up to the quote behind them, also if half of a pair stands in front. -/
theorem settled_quoted {text : List Char} (h : Quoted text) :
    (∃ cs? : Option (List Char), ∀ rest, (readChars (text ++ '"' :: rest)).toOption = cs?.map (·, rest)) ∧
      ∀ high, ∃ cs? : Option (List Char), ∀ rest, readPaired high (text ++ '"' :: rest) = cs?.map (·, rest) := by
  induction h with
  | nil =>
    refine ⟨⟨some [], fun rest => ?_⟩, fun high => ⟨none, fun rest => ?_⟩⟩
    · rw [List.nil_append, readChars, if_pos rfl]
      rfl
    · refine readPaired_other high ?_
      intro more heq
      cases (List.cons.inj heq).1
  | @plain c _ hquote hslash hcontrol _ ih =>
    obtain ⟨⟨cs?, hcs⟩, -⟩ := ih
    refine ⟨⟨cs?.map (c :: ·), fun rest => ?_⟩, fun high => ⟨none, fun rest => ?_⟩⟩
    · rw [List.cons_append, readChars_of_plain hquote hslash hcontrol, hcs rest, Option.map_map, Option.map_map]
      rfl
    · refine readPaired_other high ?_
      intro more heq
      exact hslash (List.cons.inj heq).1
  | @letter x c _ hx _ ih =>
    obtain ⟨⟨cs?, hcs⟩, -⟩ := ih
    refine ⟨⟨cs?.map (c :: ·), fun rest => ?_⟩, fun high => ⟨none, fun rest => ?_⟩⟩
    · rw [List.cons_append, List.cons_append, readChars_of_escape (readEscape_of_unescape? hx _), hcs rest,
        Option.map_map, Option.map_map]
      rfl
    · refine readPaired_other high ?_
      intro more heq
      rw [(List.cons.inj (List.cons.inj heq).2).1] at hx
      cases hx
  | @unit _ _ _ _ n _ hn _ ih =>
    obtain ⟨⟨cs?, hcs⟩, hpaired⟩ := ih
    refine ⟨?_, fun high => ?_⟩
    · obtain ⟨ps?, hps⟩ := hpaired n
      refine ⟨if isLowHalf n then none else if isHighHalf n then ps? else cs?.map (Char.ofNat n :: ·), fun rest => ?_⟩
      simp only [List.cons_append]
      rw [readChars_unit hn, hps rest, hcs rest]
      split
      · rfl
      · split
        · rfl
        · rw [Option.map_map, Option.map_map]
          rfl
    · refine ⟨if isLowHalf n then cs?.map (ofPair high n :: ·) else none, fun rest => ?_⟩
      simp only [List.cons_append]
      rw [readPaired_unit hn, hcs rest]
      split
      · rw [Option.map_map, Option.map_map]
        rfl
      · rfl

theorem settled_string {text : List Char} (h : Quoted text) :
    ∃ s? : Option String, ∀ rest, (readString (text ++ '"' :: rest)).toOption = s?.map (·, rest) := by
  obtain ⟨⟨cs?, hcs⟩, -⟩ := settled_quoted h
  refine ⟨cs?.map String.ofList, fun rest => ?_⟩
  rw [readString, toOption_bind, hcs rest]
  cases cs? <;> rfl

end ScriptBench.Json
