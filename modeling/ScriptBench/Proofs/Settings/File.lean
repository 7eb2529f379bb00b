import ScriptBench.Proofs.Engine.ByteLines
import ScriptBench.Settings

/-! The lines of a settings file, and what each of them assigns. A line that is no text ends the file. -/
namespace ScriptBench

namespace Text

/-! Blanks around a text -/

/-- A text without the blanks around it. -/
def Trims (text inner : List Char) : Prop :=
  ∃ before behind, text = before ++ inner ++ behind ∧ (∀ c ∈ before, isBlank c = true) ∧
    (∀ c ∈ behind, isBlank c = true) ∧ (∀ c ∈ inner.head?, isBlank c = false) ∧
    ∀ c ∈ inner.getLast?, isBlank c = false

variable {text inner : List Char}

theorem head?_dropWhile_isBlank (text : List Char) : ∀ c ∈ (text.dropWhile isBlank).head?, isBlank c = false := by
  intro c hc
  have hhead := List.head?_dropWhile_not isBlank text
  rw [hc] at hhead
  exact hhead

theorem trims_trim (text : List Char) : Trims text (trim text) := by
  have hfront := List.takeWhile_append_dropWhile (p := isBlank) (l := text)
  have hback := List.takeWhile_append_dropWhile (p := isBlank) (l := (trimStart text).reverse)
  have hstart : trimStart text = trim text ++ ((trimStart text).reverse.takeWhile isBlank).reverse := by
    rw [trim, ← List.reverse_append, hback, List.reverse_reverse]
  refine ⟨text.takeWhile isBlank, ((trimStart text).reverse.takeWhile isBlank).reverse, ?_, ?_, ?_, ?_, ?_⟩
  · rw [List.append_assoc, ← hstart]
    exact hfront.symm
  · exact List.all_eq_true.1 List.all_takeWhile
  · exact fun c hc => List.all_eq_true.1 List.all_takeWhile c (List.mem_reverse.1 hc)
  · intro c hc
    refine head?_dropWhile_isBlank text c ?_
    change c ∈ (trimStart text).head?
    rw [hstart, List.head?_append, Option.mem_def.1 hc]
    rfl
  · intro c hc
    rw [trim, List.getLast?_reverse] at hc
    exact head?_dropWhile_isBlank _ c hc

theorem Trims.trim_eq (h : Trims text inner) : trim text = inner := by
  obtain ⟨before, behind, rfl, hbefore, hbehind, hfirst, hlast⟩ := h
  have hdrop : ∀ {front : List Char} (rest : List Char), (∀ c ∈ front, isBlank c = true) →
      (∀ c ∈ rest.head?, isBlank c = false) → (front ++ rest).dropWhile isBlank = rest := by
    intro front rest hfront hrest
    rw [List.dropWhile_append_of_pos hfront]
    cases rest with
    | nil => rfl
    | cons c rest => rw [List.dropWhile_cons, hrest c rfl, if_neg Bool.false_ne_true]
  have hreverse : ∀ c ∈ behind.reverse, isBlank c = true := fun c hc => hbehind c (List.mem_reverse.1 hc)
  unfold trim trimStart
  cases inner with
  | nil =>
    have hall : ∀ c ∈ before ++ [] ++ behind, isBlank c = true := by
      intro c hc
      rw [List.append_nil, List.mem_append] at hc
      exact hc.elim (hbefore c) (hbehind c)
    have hnil := hdrop [] hall nofun
    rw [List.append_nil] at hnil
    rw [hnil]
    rfl
  | cons c inner =>
    have hstart : ∀ d ∈ (c :: inner ++ behind).head?, isBlank d = false := hfirst
    rw [List.append_assoc, hdrop _ hbefore hstart, List.reverse_append, hdrop _ hreverse, List.reverse_reverse]
    rwa [List.head?_reverse]

theorem trims_iff : Trims text inner ↔ trim text = inner :=
  ⟨Trims.trim_eq, fun h => h ▸ trims_trim text⟩

theorem trim_append_blank (text : List Char) {c : Char} (hc : isBlank c = true) : trim (text ++ [c]) = trim text := by
  obtain ⟨before, behind, htext, hbefore, hbehind, hfirst, hlast⟩ := trims_trim text
  refine Trims.trim_eq ⟨before, behind ++ [c], ?_, hbefore, ?_, hfirst, hlast⟩
  · rw [← List.append_assoc, ← htext]
  · intro d hd
    rcases List.mem_append.1 hd with hd | hd
    · exact hbehind d hd
    · rw [List.mem_singleton.1 hd]
      exact hc

end Text

namespace Settings

open Text

/-! Assignments -/

/-- What a line assigns. Without the blanks around it, it has an equals sign and does not begin with a number sign. The
name stands in front of the first equals sign and the value behind it, both without the blanks around them. -/
def Assigns (line name value : String) : Prop :=
  ∃ front back, Trims line.toList (front ++ '=' :: back) ∧ (front ++ '=' :: back).head? ≠ some '#' ∧ '=' ∉ front ∧
    Trims front name.toList ∧ Trims back value.toList

theorem split_at_sign {front : List Char} (h : '=' ∉ front) (back : List Char) :
    (front ++ '=' :: back).takeWhile (· != '=') = front ∧
      (front ++ '=' :: back).dropWhile (· != '=') = '=' :: back := by
  have hfront : ∀ c ∈ front, (c != '=') = true := by
    intro c hc
    rw [bne_iff_ne]
    rintro rfl
    exact h hc
  rw [List.takeWhile_append_of_pos hfront, List.dropWhile_append_of_pos hfront]
  simp

theorem assignment?_eq_some_iff {line name value : String} :
    assignment? line = some (name, value) ↔ Assigns line name value := by
  unfold assignment? Assigns
  simp only [trims_iff]
  generalize trim line.toList = cs
  constructor
  · intro h
    split at h
    · cases h
    · cases h
    · rename_i hsign
      split at h
      · rename_i back hback
        cases h
        have hsplit := List.takeWhile_append_dropWhile (p := (· != '=')) (l := cs)
        rw [hback] at hsplit
        refine ⟨cs.takeWhile (· != '='), back, hsplit.symm, ?_, ?_, ?_, ?_⟩
        · rw [hsplit]
          intro hhead
          obtain ⟨more, rfl⟩ := List.head?_eq_some_iff.1 hhead
          exact hsign more rfl
        · intro hmem
          have hne := List.all_eq_true.1 List.all_takeWhile _ hmem
          exact absurd hne (by decide)
        · rw [String.toList_ofList]
        · rw [String.toList_ofList]
      · cases h
  · rintro ⟨front, back, rfl, hsign, hfront, hname, hvalue⟩
    obtain ⟨htake, hdrop⟩ := split_at_sign hfront back
    split
    · rename_i hnil
      exact absurd hnil (by simp)
    · rename_i hhead
      exact absurd (by rw [hhead]; rfl) hsign
    · simp only [hdrop, htake, hname, hvalue, String.ofList_toList]

/-- A return at the end of a line does not matter. -/
theorem assignment?_append_return (line : String) : assignment? (line ++ "\r") = assignment? line := by
  have htrim : trim (line ++ "\r").toList = trim line.toList := by
    rw [String.toList_append]
    exact trim_append_blank line.toList (by decide)
  unfold assignment?
  rw [htrim]

/-! Texts of lines -/

/-- The texts of the lines of a file, up to the first line that is no text. -/
def Readable (file : List UInt8) (texts : List String) : Prop :=
  ∃ rest, Lined file (texts.map encodeUtf8 ++ rest) ∧ ∀ line ∈ rest.head?, ∀ text, encodeUtf8 text ≠ line

theorem encodeUtf8_inj {a b : String} (h : encodeUtf8 a = encodeUtf8 b) : a = b := by
  have hdecode := decodeUtf8_encodeUtf8 a
  rw [h, decodeUtf8_encodeUtf8] at hdecode
  exact (Except.ok.inj hdecode).symm

theorem encodeUtf8_of_decodeUtf8 {bytes : List UInt8} {text : String} (h : decodeUtf8 bytes = .ok text) :
    encodeUtf8 text = bytes := by
  unfold decodeUtf8 String.fromUTF8? at h
  split at h
  · rename_i hsome
    split at hsome
    · cases hsome
      cases h
      rfl
    · cases hsome
  · cases h

theorem append_rest_inj {texts texts' : List String} {rest rest' : List (List UInt8)}
    (h : ∀ line ∈ rest.head?, ∀ text, encodeUtf8 text ≠ line)
    (h' : ∀ line ∈ rest'.head?, ∀ text, encodeUtf8 text ≠ line)
    (heq : texts.map encodeUtf8 ++ rest = texts'.map encodeUtf8 ++ rest') : texts = texts' := by
  induction texts generalizing texts' with
  | nil =>
    cases texts' with
    | nil => rfl
    | cons text texts' =>
      rw [List.map_nil, List.nil_append] at heq
      exact absurd rfl (h (encodeUtf8 text) (by rw [heq]; rfl) text)
  | cons text texts ih =>
    cases texts' with
    | nil =>
      rw [List.map_nil, List.nil_append] at heq
      exact absurd rfl (h' (encodeUtf8 text) (by rw [← heq]; rfl) text)
    | cons text' texts' =>
      rw [List.map_cons, List.map_cons, List.cons_append, List.cons_append, List.cons.injEq] at heq
      rw [encodeUtf8_inj heq.1, ih heq.2]

theorem Readable.unique {file : List UInt8} {texts texts' : List String} (h : Readable file texts)
    (h' : Readable file texts') : texts' = texts := by
  obtain ⟨rest, hlined, hrest⟩ := h
  obtain ⟨rest', hlined', hrest'⟩ := h'
  exact append_rest_inj hrest' hrest (hlined.unique hlined')

theorem exists_readable (file : List UInt8) : ∃ texts, Readable file texts := by
  obtain ⟨lines, hlined⟩ := exists_lined file
  suffices hsplit : ∃ (texts : List String) (rest : List (List UInt8)), lines = texts.map encodeUtf8 ++ rest ∧
      ∀ line ∈ rest.head?, ∀ text, encodeUtf8 text ≠ line by
    obtain ⟨texts, rest, rfl, hrest⟩ := hsplit
    exact ⟨texts, rest, hlined, hrest⟩
  clear hlined
  induction lines with
  | nil => exact ⟨[], [], rfl, nofun⟩
  | cons line lines ih =>
    by_cases htext : ∃ text, encodeUtf8 text = line
    · obtain ⟨text, rfl⟩ := htext
      obtain ⟨texts, rest, rfl, hrest⟩ := ih
      exact ⟨text :: texts, rest, rfl, hrest⟩
    · refine ⟨[], line :: lines, rfl, ?_⟩
      rintro _ ⟨rfl⟩ text heq
      exact htext ⟨text, heq⟩

/-! The lines that are read -/

theorem byteLines_append_feed {line : List UInt8} (h : 10 ∉ line) (rest : List UInt8) :
    byteLines (line ++ 10 :: rest) = line :: byteLines rest := by
  induction line with
  | nil => rfl
  | cons b line ih =>
    rw [List.mem_cons, not_or] at h
    rw [List.cons_append, byteLines, if_neg (Ne.symm h.1), ih h.2]

theorem byteLines_of_not_mem {line : List UInt8} (h : 10 ∉ line) (hne : line ≠ []) : byteLines line = [line] := by
  induction line with
  | nil => exact absurd rfl hne
  | cons b line ih =>
    rw [List.mem_cons, not_or] at h
    rw [byteLines, if_neg (Ne.symm h.1)]
    by_cases hline : line = []
    · subst hline
      rfl
    · rw [ih h.2 hline]

/-- The texts that are read of lines. -/
def textsOf (lines : List (List UInt8)) : List String :=
  ((lines.map decodeUtf8).takeWhile (·.isOk)).filterMap (·.toOption)

theorem textsOf_text (text : String) (lines : List (List UInt8)) :
    textsOf (encodeUtf8 text :: lines) = text :: textsOf lines := by
  rw [textsOf, List.map_cons, decodeUtf8_encodeUtf8]
  rfl

theorem textsOf_fault {line : List UInt8} (h : ∀ text, encodeUtf8 text ≠ line) (lines : List (List UInt8)) :
    textsOf (line :: lines) = [] := by
  rw [textsOf, List.map_cons]
  cases hline : decodeUtf8 line with
  | ok text => exact absurd (encodeUtf8_of_decodeUtf8 hline) (h text)
  | error f => rfl

theorem dropReturn_encodeUtf8 (text : String) :
    dropReturn (encodeUtf8 text) = encodeUtf8 (String.ofList (trimReturn text.toList)) := by
  rw [← bytes_toList, dropReturn_bytes, ← bytes_toList, String.toList_ofList]

/-- A line that is a text without its return is a text with it as well. -/
theorem eq_of_dropReturn_eq {line : List UInt8} {text : String} (h : dropReturn line = encodeUtf8 text) :
    line = encodeUtf8 text ∨ line = encodeUtf8 (text ++ "\r") := by
  unfold dropReturn at h
  split at h
  · rename_i hlast
    obtain ⟨front, rfl⟩ := List.getLast?_eq_some_iff.1 hlast
    rw [List.dropLast_concat] at h
    have hreturn : bytes "\r".toList = [13] := rfl
    rw [← bytes_toList (text ++ "\r"), String.toList_append, bytes_append, bytes_toList, hreturn, h]
    exact Or.inr rfl
  · exact Or.inl h

theorem filterMap_textsOf {file : List UInt8} {lines rest : List (List UInt8)} {texts : List String}
    (hlined : Lined file lines) (hlines : lines = texts.map encodeUtf8 ++ rest)
    (hrest : ∀ line ∈ rest.head?, ∀ text, encodeUtf8 text ≠ line) :
    (textsOf (byteLines file)).filterMap assignment? = texts.filterMap assignment? := by
  induction hlined generalizing texts with
  | nil =>
    obtain ⟨htexts, _⟩ := List.append_eq_nil_iff.1 hlines.symm
    rw [List.map_eq_nil_iff.1 htexts]
    rfl
  | last hfeed hne =>
    rw [byteLines_of_not_mem hfeed hne]
    cases texts with
    | nil =>
      rw [List.map_nil, List.nil_append] at hlines
      rw [textsOf_fault (hrest _ (by rw [← hlines]; rfl))]
    | cons text texts =>
      rw [List.map_cons, List.cons_append, List.cons.injEq] at hlines
      obtain ⟨htexts, _⟩ := List.append_eq_nil_iff.1 hlines.2.symm
      rw [hlines.1, textsOf_text, List.map_eq_nil_iff.1 htexts]
      rfl
  | @feed line more lines hfeed hmore ih =>
    rw [byteLines_append_feed hfeed]
    cases texts with
    | nil =>
      rw [List.map_nil, List.nil_append] at hlines
      have hfault := hrest (dropReturn line) (by rw [← hlines]; rfl)
      have hline : ∀ text, encodeUtf8 text ≠ line := by
        rintro text rfl
        exact hfault _ (dropReturn_encodeUtf8 text).symm
      rw [textsOf_fault hline]
    | cons text texts =>
      rw [List.map_cons, List.cons_append, List.cons.injEq] at hlines
      rcases eq_of_dropReturn_eq hlines.1 with rfl | rfl
      · rw [textsOf_text, List.filterMap_cons, List.filterMap_cons, ih hlines.2]
      · rw [textsOf_text, List.filterMap_cons, List.filterMap_cons, assignment?_append_return, ih hlines.2]

/-- The assignments that are read of a file are those of its texts. -/
theorem filterMap_textLines {file : List UInt8} {texts : List String} (h : Readable file texts) :
    (textLines file).filterMap assignment? = texts.filterMap assignment? := by
  obtain ⟨rest, hlined, hrest⟩ := h
  exact filterMap_textsOf hlined rfl hrest

end Settings

end ScriptBench
