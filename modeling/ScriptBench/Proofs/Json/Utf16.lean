import ScriptBench.Json.Printer
import ScriptBench.Json.Reader

/-! Strings of code points in ASCII. Every unit of UTF-16 that is no printable character of ASCII is escaped.
Such a string is read back just if its units are those of a text. -/
namespace ScriptBench.Json

/-- The units of UTF-16 of a code point. -/
def units (n : Nat) : List Nat :=
  if n < 0x10000 then [n] else [0xD800 + (n - 0x10000) / 0x400, 0xDC00 + (n - 0x10000) % 0x400]

/-- The units of a text. -/
def textUnits (text : List Char) : List Nat := text.flatMap fun c => units c.toNat

/-- Units in which every half of a pair stands in its pair. -/
inductive Paired : List Nat → Prop where
  | nil : Paired []
  | unit {n : Nat} {more : List Nat} (hhigh : isHighHalf n = false) (hlow : isLowHalf n = false)
    (h : Paired more) : Paired (n :: more)
  | pair {high low : Nat} {more : List Nat} (hhigh : isHighHalf high = true) (hlow : isLowHalf low = true)
    (h : Paired more) : Paired (high :: low :: more)

/-- The four digits of a unit. -/
def hexDigits (n : Nat) : List Char :=
  [hexDigit (n / 0x1000), hexDigit (n / 0x100 % 16), hexDigit (n / 16 % 16), hexDigit (n % 16)]

/-- A unit as it stands in a string of ASCII. -/
def asciiUnit (n : Nat) : List Char :=
  if n = 0x22 then ['\\', '"']
  else if n = 0x5C then ['\\', '\\']
  else if n = 0x08 then ['\\', 'b']
  else if n = 0x0C then ['\\', 'f']
  else if n = 0x0A then ['\\', 'n']
  else if n = 0x0D then ['\\', 'r']
  else if n = 0x09 then ['\\', 't']
  else if 0x20 ≤ n ∧ n ≤ 0x7E then [Char.ofNat n]
  else '\\' :: 'u' :: hexDigits n

/-- The character of a pair. -/
def ofPair (high low : Nat) : Char := Char.ofNat ((high - 0xD800) * 0x400 + (low - 0xDC00) + 0x10000)

/-- The text of units, if every half stands in its pair. -/
def ofUnits? : List Nat → Option (List Char)
  | [] => some []
  | n :: more =>
    if isLowHalf n then none
    else if isHighHalf n then
      match more with
      | [] => none
      | low :: more => if isLowHalf low then (ofUnits? more).map (ofPair n low :: ·) else none
    else (ofUnits? more).map (Char.ofNat n :: ·)

theorem ofUnits?_isSome_iff {us : List Nat} : (ofUnits? us).isSome = true ↔ Paired us := by
  constructor
  · intro h
    fun_induction ofUnits? us with
    | case1 => exact .nil
    | case2 => cases h
    | case3 => cases h
    | case4 n hlow hhigh low more hpair ih =>
      rw [Option.isSome_map] at h
      exact .pair hhigh hpair (ih h)
    | case5 => cases h
    | case6 n more hlow hhigh ih =>
      rw [Option.isSome_map] at h
      exact .unit (by simpa using hhigh) (by simpa using hlow) (ih h)
  · intro h
    induction h with
    | nil => rfl
    | unit hhigh hlow h ih =>
      unfold ofUnits?
      simp [hhigh, hlow, ih]
    | @pair high low more hhigh hlow h ih =>
      have hnot : isLowHalf high = false := by
        simp [isHighHalf, isLowHalf] at hhigh ⊢
        omega
      simp [ofUnits?, hhigh, hlow, hnot, ih]

theorem toNat_ofNat_of_unit {n : Nat} (hn : n < 0x10000) (hhigh : isHighHalf n = false)
    (hlow : isLowHalf n = false) : (Char.ofNat n).toNat = n := by
  have hvalid : n.isValidChar := by
    simp [isHighHalf, isLowHalf] at hhigh hlow
    unfold Nat.isValidChar
    omega
  rw [Char.ofNat, dif_pos hvalid]
  rfl

theorem toNat_ofPair {high low : Nat} (hhigh : isHighHalf high = true) (hlow : isLowHalf low = true) :
    (ofPair high low).toNat = (high - 0xD800) * 0x400 + (low - 0xDC00) + 0x10000 := by
  have hvalid : ((high - 0xD800) * 0x400 + (low - 0xDC00) + 0x10000).isValidChar := by
    simp [isHighHalf, isLowHalf] at hhigh hlow
    unfold Nat.isValidChar
    omega
  rw [ofPair, Char.ofNat, dif_pos hvalid]
  rfl

/-- Units are read as a text just if they are its units. -/
theorem textUnits_of_ofUnits? {us : List Nat} (hus : ∀ n ∈ us, n < 0x10000) {text : List Char}
    (h : ofUnits? us = some text) : textUnits text = us := by
  fun_induction ofUnits? us generalizing text with
  | case1 =>
    cases h
    rfl
  | case2 => cases h
  | case3 => cases h
  | case4 n hlow hhigh low more hpair ih =>
    obtain ⟨text, hmore, rfl⟩ := Option.map_eq_some_iff.1 h
    have ih := ih (fun m hm => hus m (by simp [hm])) hmore
    have hunits : units (ofPair n low).toNat = [n, low] := by
      rw [toNat_ofPair hhigh hpair, units, if_neg (by omega)]
      simp [isHighHalf, isLowHalf] at hhigh hpair
      simp only [List.cons.injEq, and_true]
      omega
    rw [textUnits, List.flatMap_cons, hunits]
    rw [textUnits] at ih
    rw [ih]
    rfl
  | case5 => cases h
  | case6 n more hlow hhigh ih =>
    obtain ⟨text, hmore, rfl⟩ := Option.map_eq_some_iff.1 h
    have ih := ih (fun m hm => hus m (by simp [hm])) hmore
    have hn := hus n (by simp)
    have hunits : units (Char.ofNat n).toNat = [n] := by
      rw [toNat_ofNat_of_unit hn (by simpa using hhigh) (by simpa using hlow), units, if_pos hn]
    rw [textUnits, List.flatMap_cons, hunits]
    rw [textUnits] at ih
    rw [ih]
    rfl

theorem units_of_char (c : Char) :
    units c.toNat = [c.toNat] ∧ isHighHalf c.toNat = false ∧ isLowHalf c.toNat = false ∨
      ∃ high low, units c.toNat = [high, low] ∧ isHighHalf high = true ∧ isLowHalf low = true ∧
        ofPair high low = c := by
  have hvalid : c.toNat.isValidChar := c.valid
  unfold Nat.isValidChar at hvalid
  by_cases hn : c.toNat < 0x10000
  · left
    rw [units, if_pos hn]
    simp [isHighHalf, isLowHalf]
    omega
  · right
    rw [units, if_neg hn]
    refine ⟨_, _, rfl, ?_, ?_, ?_⟩
    · simp [isHighHalf]
      omega
    · simp [isLowHalf]
      omega
    · have hc : (0xD800 + (c.toNat - 0x10000) / 0x400 - 0xD800) * 0x400 +
          (0xDC00 + (c.toNat - 0x10000) % 0x400 - 0xDC00) + 0x10000 = c.toNat := by omega
      rw [ofPair, hc, Char.ofNat_toNat]

theorem ofUnits?_textUnits (text : List Char) : ofUnits? (textUnits text) = some text := by
  induction text with
  | nil => rfl
  | cons c text ih =>
    rw [textUnits, List.flatMap_cons, ← textUnits]
    rcases units_of_char c with ⟨hunits, hhigh, hlow⟩ | ⟨high, low, hunits, hhigh, hlow, hc⟩
    · rw [hunits, List.singleton_append]
      unfold ofUnits?
      simp [hhigh, hlow, ih, Char.ofNat_toNat]
    · have hnot : isLowHalf high = false := by
        simp [isHighHalf, isLowHalf] at hhigh ⊢
        omega
      rw [hunits]
      simp [ofUnits?, hhigh, hlow, hnot, ih, hc]

/-! Reading -/

theorem toOption_bind {ε α β : Type} (x : Except ε α) (f : α → Except ε β) :
    (x >>= f).toOption = x.toOption.bind fun a => (f a).toOption := by
  cases x with
  | error e => rfl
  | ok a => rfl

theorem hexDigit?_hexDigit {n : Nat} (h : n < 16) : hexDigit? (hexDigit n) = some n := by
  have hall : ∀ n < 16, hexDigit? (hexDigit n) = some n := by decide
  exact hall n h

theorem readUnit_hexDigits {n : Nat} (h : n < 0x10000) (rest : List Char) :
    readUnit (hexDigits n ++ rest) = .ok (n, rest) := by
  have hunit : hexUnit? (hexDigit (n / 0x1000)) (hexDigit (n / 0x100 % 16)) (hexDigit (n / 16 % 16))
      (hexDigit (n % 16)) = some n := by
    simp only [hexUnit?, hexDigit?_hexDigit (show n / 0x1000 < 16 by omega),
      hexDigit?_hexDigit (show n / 0x100 % 16 < 16 by omega), hexDigit?_hexDigit (show n / 16 % 16 < 16 by omega),
      hexDigit?_hexDigit (show n % 16 < 16 by omega), Option.bind_eq_bind, Option.bind_some, Option.pure_def,
      Option.some.injEq]
    omega
  change readUnit (_ :: _ :: _ :: _ :: rest) = _
  rw [readUnit, hunit]

theorem readChars_of_escape {text after : List Char} {c : Char} (h : readEscape text = .ok (c, after)) :
    (readChars ('\\' :: text)).toOption = (readChars after).toOption.map fun p => (c :: p.1, p.2) := by
  rw [readChars, if_neg (by decide), if_pos rfl]
  split
  · rename_i f hf
    rw [h] at hf
    cases hf
  · rename_i x after' hx
    rw [h] at hx
    cases hx
    rw [toOption_bind]
    cases (readChars after).toOption <;> rfl

theorem readChars_of_bad_escape {text : List Char} (h : (readEscape text).toOption = none) :
    (readChars ('\\' :: text)).toOption = none := by
  rw [readChars, if_neg (by decide), if_pos rfl]
  split
  · rfl
  · rename_i x after hx
    rw [hx] at h
    cases h

theorem readChars_of_plain {c : Char} (hquote : c ≠ '"') (hslash : c ≠ '\\') (hcontrol : isControl c = false)
    (rest : List Char) :
    (readChars (c :: rest)).toOption = (readChars rest).toOption.map fun p => (c :: p.1, p.2) := by
  rw [readChars, if_neg hquote, if_neg hslash, hcontrol, if_neg (by decide), toOption_bind]
  cases (readChars rest).toOption <;> rfl

/-- A unit stands for itself, or behind a backslash as a letter or by its four digits. -/
inductive Spelling (n : Nat) : List Char → Prop where
  | plain (hlow : 0x20 ≤ n) (hhigh : n ≤ 0x7E) (hquote : n ≠ 0x22) (hslash : n ≠ 0x5C) :
    Spelling n [Char.ofNat n]
  | letter {c : Char} (hn : n < 0x80) (hc : c ≠ 'u') (h : unescape? c = some (Char.ofNat n)) :
    Spelling n ['\\', c]
  | digits : Spelling n ('\\' :: 'u' :: hexDigits n)

theorem spelling_asciiUnit (n : Nat) : Spelling n (asciiUnit n) := by
  unfold asciiUnit
  split
  · rename_i h
    exact .letter (by omega) (by decide) (by rw [h]; rfl)
  split
  · rename_i h
    exact .letter (by omega) (by decide) (by rw [h]; rfl)
  split
  · rename_i h
    exact .letter (by omega) (by decide) (by rw [h]; rfl)
  split
  · rename_i h
    exact .letter (by omega) (by decide) (by rw [h]; rfl)
  split
  · rename_i h
    exact .letter (by omega) (by decide) (by rw [h]; rfl)
  split
  · rename_i h
    exact .letter (by omega) (by decide) (by rw [h]; rfl)
  split
  · rename_i h
    exact .letter (by omega) (by decide) (by rw [h]; rfl)
  split
  · rename_i h
    exact .plain h.1 h.2 (by assumption) (by assumption)
  · exact .digits

section

variable {n : Nat} (hn : n < 0x10000)

include hn

theorem readEscape_hexDigits (rest : List Char) :
    readEscape ('u' :: hexDigits n ++ rest) =
      if isLowHalf n then .error (.before .loneSurrogate rest)
      else if isHighHalf n then readLowHalf n rest
      else .ok (Char.ofNat n, rest) := by
  rw [List.cons_append, readEscape, if_pos rfl, readCodeUnits, readUnit_hexDigits hn]

theorem readChars_asciiUnit (hhigh : isHighHalf n = false) (hlow : isLowHalf n = false) (rest : List Char) :
    (readChars (asciiUnit n ++ rest)).toOption =
      (readChars rest).toOption.map fun p => (Char.ofNat n :: p.1, p.2) := by
  have hnat := toNat_ofNat_of_unit hn hhigh hlow
  generalize hspell : asciiUnit n = spelling
  have h := spelling_asciiUnit n
  rw [hspell] at h
  cases h with
  | plain hmin hmax hquote hslash =>
    refine readChars_of_plain ?_ ?_ ?_ rest
    · intro hc
      rw [hc] at hnat
      exact hquote hnat.symm
    · intro hc
      rw [hc] at hnat
      exact hslash hnat.symm
    · rw [isControl, hnat]
      simp
      omega
  | letter hsmall hc hletter =>
    rw [List.cons_append, List.singleton_append]
    refine readChars_of_escape ?_
    rw [readEscape, if_neg hc, hletter]
  | digits =>
    rw [List.cons_append]
    refine readChars_of_escape ?_
    rw [readEscape_hexDigits hn, hlow, hhigh]
    rfl

theorem readChars_low (hlow : isLowHalf n = true) (rest : List Char) :
    (readChars (asciiUnit n ++ rest)).toOption = none := by
  have hsmall : ¬n < 0x80 := by
    simp [isLowHalf] at hlow
    omega
  generalize hspell : asciiUnit n = spelling
  have h := spelling_asciiUnit n
  rw [hspell] at h
  cases h with
  | plain hmin hmax hquote hslash => omega
  | letter hsmall' hc hletter => exact (hsmall hsmall').elim
  | digits =>
    rw [List.cons_append]
    refine readChars_of_bad_escape ?_
    rw [readEscape_hexDigits hn, if_pos hlow]
    rfl

/-- Behind a first half only a second half is read. -/
theorem readLowHalf_asciiUnit (high : Nat) (rest : List Char) :
    (readLowHalf high (asciiUnit n ++ rest)).toOption =
      if isLowHalf n then some (ofPair high n, rest) else none := by
  have hsmall : isLowHalf n = true → ¬n < 0x80 := by
    intro hlow
    simp [isLowHalf] at hlow
    omega
  generalize hspell : asciiUnit n = spelling
  have h := spelling_asciiUnit n
  rw [hspell] at h
  cases h with
  | plain hmin hmax hquote hslash =>
    have hlow : ¬isLowHalf n = true := fun hlow => hsmall hlow (by omega)
    rw [if_neg hlow, List.singleton_append]
    unfold readLowHalf
    split <;> first | rfl | skip
    rename_i rest' heq
    injection heq with hc _
    have hvalue : (Char.ofNat n).toNat = 0x5C := by
      rw [hc]
      rfl
    rw [toNat_ofNat_of_unit hn (by simp [isHighHalf]; omega) (by simpa using hlow)] at hvalue
    exact (hslash hvalue).elim
  | letter hsmall' hc hletter =>
    have hlow : ¬isLowHalf n = true := fun hlow => hsmall hlow hsmall'
    rw [if_neg hlow]
    unfold readLowHalf
    split <;> first | rfl | skip
    rename_i rest' heq
    injection heq with _ heq
    injection heq with hu _
    exact (hc hu).elim
  | digits =>
    change (readLowHalf high ('\\' :: 'u' :: (hexDigits n ++ rest))).toOption = _
    rw [readLowHalf, readUnit_hexDigits hn]
    dsimp only
    split <;> rfl

end

theorem readLowHalf_quote (high : Nat) (rest : List Char) :
    (readLowHalf high ('"' :: rest)).toOption = none := rfl

theorem readChars_high {n : Nat} (hn : n < 0x10000) (hhigh : isHighHalf n = true) (rest : List Char) :
    (readChars (asciiUnit n ++ rest)).toOption =
      (readLowHalf n rest).toOption.bind fun p =>
        (readChars p.2).toOption.map fun q => (p.1 :: q.1, q.2) := by
  have hlow : isLowHalf n = false := by
    simp [isHighHalf, isLowHalf] at hhigh ⊢
    omega
  generalize hspell : asciiUnit n = spelling
  have h := spelling_asciiUnit n
  rw [hspell] at h
  have hlarge : 0x80 ≤ n := by
    simp [isHighHalf] at hhigh
    omega
  cases h with
  | plain hmin hmax hquote hslash => omega
  | letter hsmall hc hletter => omega
  | digits =>
    have hescape : readEscape ('u' :: hexDigits n ++ rest) = readLowHalf n rest := by
      rw [readEscape_hexDigits hn, hlow, hhigh]
      rfl
    rw [List.cons_append]
    cases hpair : readLowHalf n rest with
    | error f =>
      refine readChars_of_bad_escape ?_
      rw [hescape, hpair]
      rfl
    | ok p =>
      rw [hpair] at hescape
      exact readChars_of_escape hescape

/-- A string of units is read as its text, and refused if there is none. -/
theorem readChars_asciiUnits {us : List Nat} (hus : ∀ n ∈ us, n < 0x10000) (rest : List Char) :
    (readChars (us.flatMap asciiUnit ++ '"' :: rest)).toOption =
      (ofUnits? us).map fun text => (text, rest) := by
  fun_induction ofUnits? us with
  | case1 =>
    rw [List.flatMap_nil, List.nil_append, readChars, if_pos rfl]
    rfl
  | case2 n more hlow =>
    rw [List.flatMap_cons, List.append_assoc, readChars_low (hus n (by simp)) hlow]
    rfl
  | case3 n hlow hhigh =>
    rw [List.flatMap_cons, List.append_assoc, readChars_high (hus n (by simp)) hhigh, List.flatMap_nil,
      List.nil_append, readLowHalf_quote]
    rfl
  | case4 n hlow hhigh low more hpair ih =>
    have ih := ih fun m hm => hus m (by simp [hm])
    rw [List.flatMap_cons, List.append_assoc, readChars_high (hus n (by simp)) hhigh, List.flatMap_cons,
      List.append_assoc, readLowHalf_asciiUnit (hus low (by simp)), if_pos hpair, Option.bind_some, ih]
    simp only [Option.map_map, Function.comp_def]
  | case5 n hlow hhigh low more hpair =>
    rw [List.flatMap_cons, List.append_assoc, readChars_high (hus n (by simp)) hhigh, List.flatMap_cons,
      List.append_assoc, readLowHalf_asciiUnit (hus low (by simp)), if_neg hpair]
    rfl
  | case6 n more hlow hhigh ih =>
    have ih := ih fun m hm => hus m (by simp [hm])
    rw [List.flatMap_cons, List.append_assoc,
      readChars_asciiUnit (hus n (by simp)) (by simpa using hhigh) (by simpa using hlow), ih]
    simp only [Option.map_map, Function.comp_def]

end ScriptBench.Json
