import ScriptBench.Proofs.Json.Number
import ScriptBench.Proofs.Json.Utf16

/-! Objects of ASCII on one line. An object is read just if all its members are. -/
namespace ScriptBench.Json

open Decimal (digitsOf)

/-- Below some height a text is read as a value whatever stands behind it, or refused if there is none. -/
def ReadsAs (height : Nat) (text : List Char) (v? : Option Value) : Prop :=
  ∀ depth rest, height < depth → NumberEnds rest →
    (readValue depth (text ++ rest)).toOption = v?.map fun v => (v, rest)

/-- A string of units in ASCII. -/
def asciiString (us : List Nat) : List Char := '"' :: us.flatMap asciiUnit ++ ['"']

theorem skipSpace_of_not_space {c : Char} (h : isSpace c = false) (text : List Char) :
    skipSpace (c :: text) = c :: text := by
  rw [skipSpace, List.dropWhile_cons, h]
  rfl

theorem skipSpace_of_space {c : Char} (h : isSpace c = true) (text : List Char) :
    skipSpace (c :: text) = skipSpace text := by
  rw [skipSpace, List.dropWhile_cons, h]
  rfl

theorem isSpace_of_isDigit {c : Char} (h : c.isDigit = true) : isSpace c = false := by
  cases hs : isSpace c with
  | false => rfl
  | true =>
    simp only [isSpace, Bool.or_eq_true, beq_iff_eq] at hs
    rcases hs with ((rfl | rfl) | rfl) | rfl <;> cases h

theorem readValue_of_isDigit {c : Char} (h : c.isDigit = true) (depth : Nat) (text : List Char) :
    readValue (depth + 1) (c :: text) =
      (readNumber (c :: text)).map fun p => (.number p.1, p.2) := by
  rw [readValue, skipSpace_of_not_space (isSpace_of_isDigit h)]
  split
  case h_8 d rest _ _ _ _ _ _ heq =>
    cases heq
    rw [if_pos (by simp [h])]
    cases readNumber (c :: text) <;> rfl
  all_goals
    rename_i heq
    cases heq
  all_goals cases h

theorem readValue_quote (depth : Nat) (text : List Char) :
    readValue (depth + 1) ('"' :: text) = readString text >>= fun p => .ok (.string p.1, p.2) := rfl

theorem readValue_brace {depth : Nat} (hdepth : depth ≠ 0) (text : List Char) :
    readValue (depth + 1) ('\x7b' :: text) =
      readMembers (readMember (readValue depth)) [] text >>= fun p => .ok (.object p.1, p.2) := by
  rw [readValue]
  exact if_neg hdepth

theorem readValue_blank (depth : Nat) (text : List Char) :
    readValue (depth + 1) (' ' :: text) = readValue (depth + 1) text := by
  rw [readValue, readValue, skipSpace_of_space rfl]

section

variable {height : Nat}

theorem readsAs_of_succ {text : List Char} {v? : Option Value}
    (h : ∀ depth rest, height ≤ depth → NumberEnds rest →
      (readValue (depth + 1) (text ++ rest)).toOption = v?.map fun v => (v, rest)) :
    ReadsAs height text v? := by
  intro depth rest hdepth hrest
  cases depth with
  | zero => omega
  | succ depth => exact h depth rest (by omega) hrest

theorem readsAs_null : ReadsAs height Value.null.compact (some .null) :=
  readsAs_of_succ fun _ _ _ _ => rfl

theorem readsAs_bool (b : Bool) : ReadsAs height (Value.bool b).compact (some (.bool b)) := by
  refine readsAs_of_succ fun depth rest _ _ => ?_
  cases b <;> rfl

theorem readsAs_nat {n : Nat} (hn : n < UInt64.size) : ReadsAs height (digitsOf n) (some (.nat n)) := by
  refine readsAs_of_succ fun depth rest _ hrest => ?_
  have hread := readNumber_digitsOf hn hrest
  cases hds : digitsOf n with
  | nil => exact (Nat.toDigits_ne_nil hds).elim
  | cons c ds =>
    have hdigit : c.isDigit = true := isDigit_of_mem_digitsOf (by rw [hds]; simp)
    rw [hds, List.cons_append] at hread
    rw [List.cons_append, readValue_of_isDigit hdigit, hread]
    rfl

theorem readString_units {us : List Nat} (hus : ∀ n ∈ us, n < 0x10000) (rest : List Char) :
    (readString (us.flatMap asciiUnit ++ '"' :: rest)).toOption =
      (ofUnits? us).map fun text => (String.ofList text, rest) := by
  rw [readString, toOption_bind, readChars_asciiUnits hus]
  cases ofUnits? us <;> rfl

theorem readsAs_string {us : List Nat} (hus : ∀ n ∈ us, n < 0x10000) :
    ReadsAs height (asciiString us) ((ofUnits? us).map fun text => .string (.ofList text)) := by
  refine readsAs_of_succ fun depth rest _ _ => ?_
  have htext : asciiString us ++ rest = '"' :: (us.flatMap asciiUnit ++ '"' :: rest) := by
    simp [asciiString]
  rw [htext, readValue_quote, toOption_bind, readString_units hus]
  cases ofUnits? us <;> rfl

end

/-! Members -/

/-- A member with the text of its value, with a blank behind the colon. -/
def memberChars (name : String) (text : List Char) : List Char :=
  asciiString (textUnits name.toList) ++ ':' :: ' ' :: text

/-- An object on one line, with a blank behind each comma. -/
def objectChars (fields : List (String × List Char)) : List Char :=
  '\x7b' :: separate [',', ' '] (fields.map fun f => memberChars f.1 f.2) ++ ['\x7d']

/-- A member of an object: its name, the text of its value, and how that is read. -/
structure Member where
  name : String
  text : List Char
  value? : Option Value

namespace Member

def chars (m : Member) : List Char := memberChars m.name m.text

/-- The members of an object as they are read, if all are. -/
def values? : List Member → Option (List (String × Value))
  | [] => some []
  | m :: more => m.value?.bind fun v => (values? more).map ((m.name, v) :: ·)

end Member

theorem units_lt {n : Nat} (hn : n < 0x110000) : ∀ m ∈ units n, m < 0x10000 := by
  intro m hm
  unfold units at hm
  split at hm
  · rw [List.mem_singleton] at hm
    omega
  · simp only [List.mem_cons, List.not_mem_nil, or_false] at hm
    omega

theorem textUnits_lt (text : List Char) : ∀ n ∈ textUnits text, n < 0x10000 := by
  intro n hn
  obtain ⟨c, _, hn⟩ := List.mem_flatMap.1 hn
  have hvalid : c.toNat.isValidChar := c.valid
  unfold Nat.isValidChar at hvalid
  exact units_lt (by omega) n hn

theorem numberEnds_cons {c : Char} (rest : List Char)
    (h : c.isDigit = false ∧ c ≠ '.' ∧ isExponentMark c = false) : NumberEnds (c :: rest) := by
  intro d more heq
  cases heq
  exact h

theorem readMember_chars {height depth : Nat} (hdepth : height < depth) {m : Member}
    (hm : ReadsAs height m.text m.value?) (acc : List (String × Value)) {rest : List Char}
    (hrest : NumberEnds rest) :
    (readMember (readValue depth) acc (m.chars.tail ++ rest)).toOption =
      m.value?.map fun v => (acc ++ [(m.name, v)], rest) := by
  have hchars : m.chars.tail ++ rest =
      (textUnits m.name.toList).flatMap asciiUnit ++ '"' :: (':' :: ' ' :: (m.text ++ rest)) := by
    simp [Member.chars, memberChars, asciiString]
  have hvalue : readValue depth (' ' :: (m.text ++ rest)) = readValue depth (m.text ++ rest) := by
    cases depth with
    | zero => omega
    | succ depth => exact readValue_blank depth _
  have hcolon : readColon (':' :: ' ' :: (m.text ++ rest)) = .ok (' ' :: (m.text ++ rest)) := rfl
  rw [hchars, readMember, toOption_bind, readString_units (textUnits_lt _), ofUnits?_textUnits, Option.map_some,
    Option.bind_some, String.ofList_toList]
  dsimp only
  rw [hcolon]
  change (readValue depth (' ' :: (m.text ++ rest)) >>= _).toOption = _
  rw [hvalue, toOption_bind, hm depth rest hdepth hrest]
  cases m.value? <;> rfl

theorem chars_eq (m : Member) : m.chars = '"' :: m.chars.tail := rfl

theorem readMoreMembers_chars {height depth : Nat} (hdepth : height < depth) {ms : List Member}
    (hms : ∀ m ∈ ms, ReadsAs height m.text m.value?) {fuel : Nat} (hfuel : ms.length < fuel)
    (acc : List (String × Value)) (rest : List Char) :
    (readMoreMembers (readMember (readValue depth)) fuel acc
        (ms.flatMap (fun m => ',' :: ' ' :: m.chars) ++ '\x7d' :: rest)).toOption =
      (Member.values? ms).map fun vs => (acc ++ vs, rest) := by
  induction ms generalizing fuel acc with
  | nil =>
    cases fuel with
    | zero => cases hfuel
    | succ fuel =>
      rw [Member.values?, Option.map_some, List.append_nil]
      rfl
  | cons m ms ih =>
    cases fuel with
    | zero => cases hfuel
    | succ fuel =>
      have ih := fun acc => ih (fun m' hm' => hms m' (by simp [hm'])) (Nat.lt_of_succ_lt_succ hfuel) acc
      have hrest : NumberEnds (ms.flatMap (fun m => ',' :: ' ' :: m.chars) ++ '\x7d' :: rest) := by
        cases ms with
        | nil => exact numberEnds_cons _ (by decide)
        | cons m' ms => exact numberEnds_cons _ (by decide)
      have hmember := readMember_chars hdepth (hms m (by simp)) acc hrest
      rw [List.flatMap_cons, List.append_assoc, chars_eq]
      change (readMember (readValue depth) acc (m.chars.tail ++ _) >>= fun p =>
        readMoreMembers (readMember (readValue depth)) fuel p.1 p.2).toOption = _
      rw [toOption_bind, hmember, Member.values?]
      cases m.value? with
      | none => rfl
      | some v =>
        simp only [Option.map_some, Option.bind_some, ih, Option.map_map]
        congr 1
        funext vs
        simp

theorem separate_cons (separator part : List Char) (more : List (List Char)) :
    separate separator (part :: more) = part ++ more.flatMap (separator ++ ·) := by
  induction more generalizing part with
  | nil => simp [separate]
  | cons next more ih =>
    rw [separate, ih]
    · simp
    · simp

theorem length_le_flatMap {α : Type} {f : α → List Char} (hf : ∀ a, 0 < (f a).length) (as : List α) :
    as.length ≤ (as.flatMap f).length := by
  induction as with
  | nil => exact Nat.zero_le _
  | cons a as ih =>
    have ha := hf a
    rw [List.flatMap_cons, List.length_append, List.length_cons]
    omega

/-- An object is read if all its members are, and refused if one of them is. -/
theorem readsAs_object {height : Nat} {ms : List Member} (hms : ∀ m ∈ ms, ReadsAs height m.text m.value?) :
    ReadsAs (height + 1) (objectChars (ms.map fun m => (m.name, m.text))) ((Member.values? ms).map .object) := by
  refine readsAs_of_succ fun depth rest hdepth _ => ?_
  have hbrace : objectChars (ms.map fun m => (m.name, m.text)) ++ rest =
      '\x7b' :: (separate [',', ' '] (ms.map Member.chars) ++ '\x7d' :: rest) := by
    simp only [objectChars, List.map_map, List.cons_append, List.append_assoc]
    rfl
  rw [hbrace, readValue_brace (by omega), toOption_bind]
  cases ms with
  | nil => rfl
  | cons m ms =>
    let tail := (ms.flatMap fun m => ',' :: ' ' :: m.chars) ++ '\x7d' :: rest
    have hfuel : ms.length < tail.length + 1 := by
      have hle := length_le_flatMap (f := fun m : Member => ',' :: ' ' :: m.chars) (by simp) ms
      simp only [tail, List.length_append, List.length_cons]
      omega
    have hmore := fun acc => @readMoreMembers_chars height depth (by omega) ms
      (fun m' hm' => hms m' (by simp [hm'])) (tail.length + 1) hfuel acc rest
    have hrest : NumberEnds ((ms.flatMap fun m => ',' :: ' ' :: m.chars) ++ '\x7d' :: rest) := by
      cases ms with
      | nil => exact numberEnds_cons _ (by decide)
      | cons m' ms => exact numberEnds_cons _ (by decide)
    have hmember := @readMember_chars height depth (by omega) m (hms m (by simp)) [] _ hrest
    have hflat : (ms.map Member.chars).flatMap ([',', ' '] ++ ·) = ms.flatMap fun m => ',' :: ' ' :: m.chars := by
      rw [List.flatMap_map]
      rfl
    rw [List.map_cons, separate_cons, hflat, List.append_assoc, chars_eq]
    change Option.bind (readMember (readValue depth) [] (m.chars.tail ++ _) >>= fun p =>
      readMoreMembers (readMember (readValue depth)) (p.2.length + 1) p.1 p.2).toOption _ = _
    rw [toOption_bind, hmember, Member.values?]
    cases m.value? with
    | none => rfl
    | some v =>
      simp only [Option.map_some, Option.bind_some]
      rw [hmore]
      cases Member.values? ms <;> rfl

/-- A text that is read as a value below the limit of depth is parsed as that value. -/
theorem parse_of_readsAs {height : Nat} {text : List Char} {v? : Option Value} (h : ReadsAs height text v?)
    (hheight : height < depthLimit) : (Value.parse (String.ofList text)).toOption = v? := by
  have hread := h depthLimit [] hheight numberEnds_nil
  rw [List.append_nil] at hread
  unfold Value.parse parse
  rw [String.toList_ofList]
  dsimp only
  cases hv : readValue depthLimit text with
  | error f =>
    rw [hv] at hread
    cases v? with
    | none => rfl
    | some v => cases hread
  | ok p =>
    rw [hv] at hread
    cases v? with
    | none => cases hread
    | some v =>
      cases hread
      rfl

/-! Characters -/

/-- Only printable characters of ASCII. -/
def Printable (text : List Char) : Prop := ∀ c ∈ text, 0x20 ≤ c.toNat ∧ c.toNat ≤ 0x7E

theorem printable_nil : Printable [] := by
  intro c hc
  cases hc

theorem printable_of_all {text : List Char}
    (h : (text.all fun c => decide (0x20 ≤ c.toNat) && decide (c.toNat ≤ 0x7E)) = true) : Printable text := by
  intro c hc
  simpa using List.all_eq_true.1 h c hc

theorem printable_cons_iff {c : Char} {text : List Char} :
    Printable (c :: text) ↔ (0x20 ≤ c.toNat ∧ c.toNat ≤ 0x7E) ∧ Printable text := by
  simp [Printable]

theorem printable_append_iff {a b : List Char} : Printable (a ++ b) ↔ Printable a ∧ Printable b :=
  List.forall_mem_append

theorem printable_hexDigits {n : Nat} (hn : n < 0x10000) : Printable (hexDigits n) := by
  have hdigit : ∀ d < 16, 0x20 ≤ (hexDigit d).toNat ∧ (hexDigit d).toNat ≤ 0x7E := by decide
  simp only [hexDigits, printable_cons_iff]
  exact ⟨hdigit _ (by omega), hdigit _ (by omega), hdigit _ (by omega), hdigit _ (by omega), printable_nil⟩

theorem printable_asciiUnit {n : Nat} (hn : n < 0x10000) : Printable (asciiUnit n) := by
  have hletter : ∀ {c x : Char}, unescape? c = some x → 0x20 ≤ c.toNat ∧ c.toNat ≤ 0x7E := by
    intro c x h
    unfold unescape? at h
    split at h <;> first | decide | cases h
  generalize hspell : asciiUnit n = spelling
  have h := spelling_asciiUnit n
  rw [hspell] at h
  cases h with
  | plain hmin hmax hquote hslash =>
    rw [printable_cons_iff, toNat_ofNat_of_unit hn (by simp [isHighHalf]; omega) (by simp [isLowHalf]; omega)]
    exact ⟨⟨hmin, hmax⟩, printable_nil⟩
  | letter hsmall hc h =>
    simp only [printable_cons_iff]
    exact ⟨by decide, hletter h, printable_nil⟩
  | digits =>
    simp only [printable_cons_iff]
    exact ⟨by decide, by decide, printable_hexDigits hn⟩

theorem printable_asciiString {us : List Nat} (hus : ∀ n ∈ us, n < 0x10000) : Printable (asciiString us) := by
  have hunits : Printable (us.flatMap asciiUnit) := by
    intro c hc
    obtain ⟨n, hn, hc⟩ := List.mem_flatMap.1 hc
    exact printable_asciiUnit (hus n hn) c hc
  simp only [asciiString, printable_append_iff, List.cons_append, printable_cons_iff]
  exact ⟨by decide, hunits, by decide, printable_nil⟩

theorem printable_digitsOf (n : Nat) : Printable (digitsOf n) := by
  intro c hc
  have hdigit := isDigit_of_mem_digitsOf hc
  simp only [Char.isDigit, Bool.and_eq_true, decide_eq_true_eq, ge_iff_le, UInt32.le_iff_toNat_le] at hdigit
  change 48 ≤ c.toNat ∧ c.toNat ≤ 57 at hdigit
  omega

theorem printable_objectChars {fields : List (String × List Char)} (h : ∀ f ∈ fields, Printable f.2) :
    Printable (objectChars fields) := by
  have hmember : ∀ f ∈ fields, Printable (memberChars f.1 f.2) := by
    intro f hf
    simp only [memberChars, printable_append_iff, printable_cons_iff]
    exact ⟨printable_asciiString (textUnits_lt _), by decide, by decide, h f hf⟩
  have hparts : Printable (separate [',', ' '] (fields.map fun f => memberChars f.1 f.2)) := by
    cases fields with
    | nil => exact printable_nil
    | cons f fields =>
      rw [List.map_cons, separate_cons, printable_append_iff]
      refine ⟨hmember f (by simp), fun c hc => ?_⟩
      obtain ⟨part, hpart, hc⟩ := List.mem_flatMap.1 hc
      obtain ⟨f', hf', rfl⟩ := List.mem_map.1 hpart
      have hblank : Printable [',', ' '] := printable_of_all rfl
      rcases List.mem_append.1 hc with hc | hc
      · exact hblank c hc
      · exact hmember f' (by simp [hf']) c hc
  simp only [objectChars, printable_append_iff, List.cons_append, printable_cons_iff]
  exact ⟨by decide, hparts, by decide, printable_nil⟩

end ScriptBench.Json
