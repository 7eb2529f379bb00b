import ScriptBench.Proofs.Script.Scripts

/-! Literals in a script. The interpreter evaluates the literal that stands for a text to the code points of the
text, and the test script assigns the name of its test in one row alone. -/
namespace ScriptBench.Script

open Text

/-! Evaluation -/

/-- The number that hexadecimal digits write. -/
def hexValue? (digits : List Char) : Option Nat :=
  digits.foldlM (fun n c => (Json.hexDigit? c).map (16 * n + ·)) 0

/-- The code point of exactly so many digits, and the text behind them. -/
def codePoint? (count : Nat) (text : List Char) : Option (List Nat × List Char) := do
  let n ← hexValue? (text.take count)
  if (text.take count).length = count ∧ n < 0x110000 then some ([n], text.drop count) else none

def isOctal (c : Char) : Bool := '0' ≤ c && c ≤ '7'

/-- The code point of up to three octal digits, and the text behind them. -/
def octal (text : List Char) : List Nat × List Char :=
  let digits := (text.take 3).takeWhile isOctal
  ([digits.foldl (fun n c => 8 * n + (c.toNat - '0'.toNat)) 0], text.drop digits.length)

/-- The escapes of one letter. The end of a line counts for nothing. -/
def letter? : Char → Option (List Nat)
  | '\n' => some []
  | '\r' => some []
  | '\\' => some [0x5C]
  | '\x27' => some [0x27]
  | '"' => some [0x22]
  | 'a' => some [0x07]
  | 'b' => some [0x08]
  | 'f' => some [0x0C]
  | 'n' => some [0x0A]
  | 'r' => some [0x0D]
  | 't' => some [0x09]
  | 'v' => some [0x0B]
  | _ => none

/-- What a backslash and the text behind it stand for, and what is left of the text. A backslash before a character
that it does not escape stands for itself. Characters by their names are left out. -/
def escaped? : List Char → Option (List Nat × List Char)
  | [] => none
  | c :: text =>
    match letter? c with
    | some points => some (points, text)
    | none =>
      if c = 'x' then codePoint? 2 text
      else if c = 'u' then codePoint? 4 text
      else if c = 'U' then codePoint? 8 text
      else if c = 'N' then none
      else if isOctal c then some (octal (c :: text))
      else some (['\\'.toNat, c.toNat], text)

theorem codePoint?_length {count : Nat} {text rest : List Char} {points : List Nat}
    (h : codePoint? count text = some (points, rest)) : rest.length ≤ text.length := by
  obtain ⟨n, _, h⟩ := Option.bind_eq_some_iff.1 h
  split at h
  · cases h
    rw [List.length_drop]
    exact Nat.sub_le _ _
  · cases h

theorem escaped?_length {text rest : List Char} {points : List Nat} (h : escaped? text = some (points, rest)) :
    rest.length ≤ text.length := by
  cases text with
  | nil => cases h
  | cons c text =>
    have hcode : ∀ {count}, codePoint? count text = some (points, rest) → rest.length ≤ (c :: text).length :=
      fun h => Nat.le_succ_of_le (codePoint?_length h)
    rw [escaped?] at h
    split at h
    · cases h
      exact Nat.le_succ _
    · split at h
      · exact hcode h
      · split at h
        · exact hcode h
        · split at h
          · exact hcode h
          · split at h
            · cases h
            · split at h
              · cases h
                rw [List.length_drop]
                exact Nat.sub_le _ _
              · cases h
                exact Nat.le_succ _

/-- The code points of a text up to the quote at its end. No line ends within a literal. -/
def pointsToQuote? : List Char → Option (List Nat)
  | [] => none
  | c :: text =>
    if c = '"' then if text = [] then some [] else none
    else if c = '\n' ∨ c = '\r' ∨ c = '\x00' then none
    else if c = '\\' then
      match _h : escaped? text with
      | some (points, rest) => (pointsToQuote? rest).map (points ++ ·)
      | none => none
    else (pointsToQuote? text).map (c.toNat :: ·)
termination_by text => text.length
decreasing_by
  · exact Nat.lt_succ_of_le (escaped?_length _h)
  · exact Nat.lt_succ_self _

/-- The code points of a literal in double quotes, with nothing behind it. -/
def evaluate? : List Char → Option (List Nat)
  | '"' :: text => pointsToQuote? text
  | _ => none

def pointsOf (text : String) : List Nat := text.toList.map Char.toNat

theorem pointsOf_inj {a b : String} : pointsOf a = pointsOf b ↔ a = b := by
  rw [pointsOf, pointsOf, List.map_inj_right fun _ _ h => Char.toNat_inj.1 h, String.toList_inj]

theorem pointsToQuote?_of_escaped? {text rest : List Char} {points : List Nat}
    (h : escaped? text = some (points, rest)) :
    pointsToQuote? ('\\' :: text) = (pointsToQuote? rest).map (points ++ ·) := by
  rw [pointsToQuote?, if_neg (by decide), if_neg (by decide), if_pos rfl]
  split
  · rename_i h'
    rw [h] at h'
    cases h'
    rfl
  · rename_i h'
    rw [h] at h'
    cases h'

theorem pointsToQuote?_of_plain {c : Char} (hquote : c ≠ '"') (hslash : c ≠ '\\') (hcontrol : 0x20 ≤ c.toNat)
    (rest : List Char) : pointsToQuote? (c :: rest) = (pointsToQuote? rest).map (c.toNat :: ·) := by
  have hends : ¬(c = '\n' ∨ c = '\r' ∨ c = '\x00') := by
    rintro (rfl | rfl | rfl) <;> exact absurd hcontrol (by decide)
  rw [pointsToQuote?, if_neg hquote, if_neg hends, if_neg hslash]

theorem escaped?_digits {n : Nat} (h : n < 0x100) (rest : List Char) :
    escaped? ('u' :: '0' :: '0' :: Json.hexDigit (n / 16) :: Json.hexDigit (n % 16) :: rest) = some ([n], rest) := by
  have hhigh := @Json.hexDigit?_hexDigit (n / 16) (by omega)
  have hlow := @Json.hexDigit?_hexDigit (n % 16) (by omega)
  have hzero : Json.hexDigit? '0' = some 0 := by decide
  have hvalue : hexValue? ['0', '0', Json.hexDigit (n / 16), Json.hexDigit (n % 16)] = some n := by
    simp only [hexValue?, List.foldlM_cons, List.foldlM_nil, hhigh, hlow, hzero, Option.map_some, Option.bind_eq_bind,
      Option.bind_some, Option.pure_def, Option.some.injEq]
    omega
  change codePoint? 4 ('0' :: '0' :: Json.hexDigit (n / 16) :: Json.hexDigit (n % 16) :: rest) = _
  change Option.bind (hexValue? ['0', '0', Json.hexDigit (n / 16), Json.hexDigit (n % 16)]) _ = _
  rw [hvalue, Option.bind_some, if_pos ⟨rfl, by omega⟩]
  rfl

theorem pointsToQuote?_of_letter? {x : Char} {n : Nat} (h : letter? x = some [n]) (rest : List Char) :
    pointsToQuote? ('\\' :: x :: rest) = (pointsToQuote? rest).map (n :: ·) := by
  have hescaped : escaped? (x :: rest) = some ([n], rest) := by
    rw [escaped?, h]
  exact pointsToQuote?_of_escaped? hescaped

/-- What stands for a character is evaluated to its code point. -/
theorem pointsToQuote?_escape (c : Char) (rest : List Char) :
    pointsToQuote? (Json.escape c ++ rest) = (pointsToQuote? rest).map (c.toNat :: ·) := by
  unfold Json.escape
  split
  case h_8 hquote hslash _ _ _ _ _ =>
    split
    case isTrue hcontrol => exact pointsToQuote?_of_escaped? (escaped?_digits (by omega) rest)
    case isFalse hcontrol => exact pointsToQuote?_of_plain hquote hslash (by omega) rest
  all_goals exact pointsToQuote?_of_letter? rfl rest

theorem evaluate?_literal (text : String) : evaluate? (Json.literal text).toList = some (pointsOf text) := by
  have hbody : ∀ cs : List Char, pointsToQuote? (cs.flatMap Json.escape ++ ['"']) = some (cs.map Char.toNat) := by
    intro cs
    induction cs with
    | nil =>
      rw [List.flatMap_nil, List.nil_append, pointsToQuote?, if_pos rfl, if_pos rfl]
      rfl
    | cons c cs ih =>
      rw [List.flatMap_cons, List.append_assoc, pointsToQuote?_escape, ih]
      rfl
  rw [Json.literal, String.toList_ofList]
  exact hbody text.toList

example : evaluate? "\"\\u00e9\\101\\q\\\"\"".toList = some [0xE9, 0x41, 0x5C, 0x71, 0x22] := by
  decide +kernel

/-! Assignments -/

/-- Each row of a script is one of its template, or one with a value in the place of its placeholder. -/
theorem Filled.row {template script : String} {values : List (String × String)} (h : Filled template values script)
    {row : List Char} (hrow : row ∈ rows script.toList) :
    (row ∈ rows template.toList ∧ ∀ v ∈ values, ¬hole v.1.toList <:+: row) ∨
    ∃ v ∈ values, ∃ before behind, before ++ hole v.1.toList ++ behind ∈ rows template.toList ∧
      row = before ++ v.2.toList ++ behind := by
  obtain ⟨i, hi⟩ := List.getElem?_of_mem hrow
  obtain ⟨hlt, _⟩ := List.getElem?_eq_some_iff.1 hi
  rw [h.length_eq] at hlt
  have htemplate : (rows template.toList)[i]? = some (rows template.toList)[i] := List.getElem?_eq_getElem hlt
  by_cases hfree : ∀ v ∈ values, ¬hole v.1.toList <:+: (rows template.toList)[i]
  · have huntouched := h.untouched i _ htemplate hfree
    rw [hi] at huntouched
    injection huntouched with heq
    rw [heq]
    exact .inl ⟨List.getElem_mem hlt, hfree⟩
  · obtain ⟨v, hfree⟩ := Classical.not_forall.1 hfree
    obtain ⟨hv, hfree⟩ := Classical.not_forall.1 hfree
    obtain ⟨before, behind, hsplit⟩ := Classical.not_not.1 hfree
    have hhole : (rows template.toList)[i]? = some (before ++ hole v.1.toList ++ behind) := by
      rw [htemplate, hsplit]
    have hfilled := h.filled i before behind v hv hhole
    rw [hi] at hfilled
    injection hfilled with heq
    exact .inr ⟨v, hv, before, behind, List.mem_of_getElem? hhole, heq⟩

/-- A script assigns code points to a name: a row of it is the assignment of a literal for them. -/
def Assigns (script name : String) (points : List Nat) : Prop :=
  ∃ literal, name.toList ++ [' ', '=', ' '] ++ literal ∈ rows script.toList ∧ evaluate? literal = some points

/-- How the row begins that assigns the name of a test. -/
def naming : List Char := "_PR_NAME".toList ++ [' ', '=', ' ']

/-- A row of a template assigns the name of a test only by its placeholder, and no other row can become one that
does. -/
def NamesTest (names : List (List Char)) (row : List Char) : Prop :=
  (naming <+: row → hole ['N', 'A', 'M', 'E'] <:+: row) ∧
  ∀ p ∈ occurrences names row, p.1 <+: naming ∨ naming <+: p.1 → p = (naming, ['N', 'A', 'M', 'E'], [])

instance (names : List (List Char)) (row : List Char) : Decidable (NamesTest names row) :=
  inferInstanceAs (Decidable (_ ∧ _))

theorem namesTest_testRows : ∃ rows names, Spelled testRows rows ∧
    Spelled ["NAME", "FUNCTION", "MAIN", "TEST", "START_MARKER", "END_MARKER"] names ∧
    ∀ row ∈ rows, '\n' ∉ row ∧ NamesTest names row := by
  apply Exists.intro
  apply Exists.intro
  apply And.intro
  case left =>
    unfold testRows
    repeat apply Spelled.cons
    apply Spelled.nil
  case right =>
    apply And.intro
    case left =>
      repeat apply Spelled.cons
      apply Spelled.nil
    case right => decide +kernel

section

variable {name : String} {function : Option String} {main test : String}

theorem naming_mem_rows :
    naming ++ (Json.literal name).toList ∈ rows (testScript name function main test).toList := by
  obtain ⟨spelling, names, hrows, _, hall⟩ := namesTest_testRows
  have htemplate : rows testTemplate.toList = spelling ++ [[]] := rows_ofRows hrows fun row hrow => (hall row hrow).1
  have hspelled : spelling[6]? = some "_PR_NAME = __NAME__".toList := by
    rw [← hrows.map_toList, List.getElem?_map]
    rfl
  have hplace : (rows testTemplate.toList)[6]? = some (naming ++ hole "NAME".toList ++ []) := by
    rw [htemplate, List.getElem?_append_left (List.getElem?_eq_some_iff.1 hspelled).1, hspelled]
    decide
  have hfilled := filled_testScript name function main test
  have hrow := hfilled.filled 6 naming [] ("NAME", Json.literal name) (by simp) hplace
  rw [List.append_nil] at hrow
  exact List.mem_of_getElem? hrow

/-- No other row is an assignment of the name: neither one of the template nor one with a text of the user. -/
theorem eq_literal_of_naming {literal : List Char}
    (hrow : naming ++ literal ∈ rows (testScript name function main test).toList) :
    literal = (Json.literal name).toList := by
  obtain ⟨spelling, names, hrows, hnames, hall⟩ := namesTest_testRows
  have htemplate : rows testTemplate.toList = spelling ++ [[]] := rows_ofRows hrows fun row hrow => (hall row hrow).1
  have hprefix : naming <+: naming ++ literal := List.prefix_append naming literal
  rcases (filled_testScript name function main test).row hrow with ⟨hmem, hfree⟩ | ⟨v, hv, before, behind, hmem, hsplit⟩
  · rw [htemplate, List.mem_append, List.mem_singleton] at hmem
    rcases hmem with hmem | hnil
    · have hhole := (hall _ hmem).2.1 hprefix
      exact (hfree ("NAME", Json.literal name) (by simp) (by simpa using hhole)).elim
    · exact absurd (List.append_eq_nil_iff.1 hnil).1 (by decide)
  · simp only [List.mem_cons, List.not_mem_nil, or_false] at hv
    have hvname : v.1.toList ∈ names := by
      rw [← hnames.map_toList]
      refine List.mem_map_of_mem ?_
      rcases hv with rfl | rfl | rfl | rfl | rfl | rfl <;> simp
    have hnonempty : before ++ hole v.1.toList ++ behind ≠ [] := by simp [hole]
    rw [htemplate, List.mem_append, List.mem_singleton, or_iff_left hnonempty] at hmem
    have hbefore : before <+: naming ++ literal := by
      rw [hsplit, List.append_assoc]
      exact List.prefix_append _ _
    have hcompare := List.prefix_or_prefix_of_prefix hbefore hprefix
    have hplace := (hall _ hmem).2.2 _ (mem_occurrences.2 ⟨hvname, rfl⟩) hcompare
    simp only [Prod.mk.injEq] at hplace
    obtain ⟨rfl, hname, rfl⟩ := hplace
    have hname : v.1 = "NAME" := String.toList_inj.1 hname
    rw [List.append_nil] at hsplit
    rw [List.append_cancel_left hsplit]
    rcases hv with rfl | rfl | rfl | rfl | rfl | rfl
    · rfl
    all_goals simp at hname

/-- The test script assigns the name of its test, and nothing else to that name. -/
theorem assigns_testScript_iff {points : List Nat} :
    Assigns (testScript name function main test) "_PR_NAME" points ↔ points = pointsOf name := by
  constructor
  · rintro ⟨literal, hrow, heval⟩
    rw [eq_literal_of_naming hrow, evaluate?_literal] at heval
    injection heval with heval
    exact heval.symm
  · rintro rfl
    exact ⟨_, naming_mem_rows, evaluate?_literal name⟩

end

end ScriptBench.Script
