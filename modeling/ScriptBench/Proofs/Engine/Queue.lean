import ScriptBench.Engine.Process
import ScriptBench.Proofs.Text.Lines

/-! Queued text. The lines that are heard of it are its lines as a text, whatever characters stand in them. -/
namespace ScriptBench

open Text

namespace Text

/-- The bytes of characters in UTF-8. -/
def bytes (text : List Char) : List UInt8 := text.flatMap String.utf8EncodeChar

@[simp] theorem bytes_nil : bytes [] = [] := rfl

@[simp] theorem bytes_cons (c : Char) (text : List Char) :
    bytes (c :: text) = String.utf8EncodeChar c ++ bytes text := rfl

@[simp] theorem bytes_append (a b : List Char) : bytes (a ++ b) = bytes a ++ bytes b := by
  simp [bytes]

theorem bytes_eq_nil_iff {text : List Char} : bytes text = [] ↔ text = [] := by
  cases text with
  | nil => simp
  | cons c text => simp [String.utf8EncodeChar_ne_nil]

theorem bytes_toList (text : String) : bytes text.toList = encodeUtf8 text := by
  have h : text.toByteArray = text.toList.utf8Encode := by simp
  rw [encodeUtf8, h, List.utf8Encode]
  simp [bytes]

theorem decodeUtf8_bytes (text : List Char) : decodeUtf8 (bytes text) = .ok (String.ofList text) := by
  have h := bytes_toList (String.ofList text)
  rw [String.toList_ofList] at h
  rw [h, decodeUtf8_encodeUtf8]

/-- Only a character of ASCII has a byte of ASCII among its bytes. -/
theorem toNat_eq_of_mem_utf8EncodeChar {c : Char} {b : UInt8} (h : b ∈ String.utf8EncodeChar c)
    (hb : b.toNat < 0x80) : c.toNat = b.toNat := by
  have hc : c.toNat = c.val.toNat := rfl
  unfold String.utf8EncodeChar at h
  dsimp only at h
  split at h
  · rw [List.mem_singleton] at h
    subst h
    simp at hb ⊢
    omega
  · -- every byte of a longer sequence carries its highest bit
    exfalso
    split at h
    · simp only [List.mem_cons, List.not_mem_nil, or_false] at h
      rcases h with rfl | rfl <;> simp at hb <;> omega
    · split at h
      · simp only [List.mem_cons, List.not_mem_nil, or_false] at h
        rcases h with rfl | rfl | rfl <;> simp at hb <;> omega
      · simp only [List.mem_cons, List.not_mem_nil, or_false] at h
        rcases h with rfl | rfl | rfl | rfl <;> simp at hb <;> omega

theorem eq_of_mem_utf8EncodeChar {c d : Char} {b : UInt8} (h : b ∈ String.utf8EncodeChar c)
    (hb : b.toNat < 0x80) (hd : d.toNat = b.toNat) : c = d := by
  have hc := toNat_eq_of_mem_utf8EncodeChar h hb
  exact Char.toNat_inj.1 (hc.trans hd.symm)

theorem feed_not_mem_bytes {text : List Char} (h : '\n' ∉ text) : 10 ∉ bytes text := by
  intro hm
  obtain ⟨c, hc, hm⟩ := List.mem_flatMap.1 hm
  exact h (eq_of_mem_utf8EncodeChar hm (by decide) (d := '\n') rfl ▸ hc)

end Text

/-! Splitting -/

theorem splitLine_append_of_not_mem {line : List UInt8} (h : 10 ∉ line) (more : List UInt8) :
    splitLine (line ++ more) = (splitLine more).map fun p => (line ++ p.1, p.2) := by
  induction line with
  | nil => simp
  | cons b line ih =>
    have hb : b ≠ 10 := by
      rintro rfl
      simp at h
    have hline : 10 ∉ line := fun hm => h (List.mem_cons_of_mem b hm)
    rw [List.cons_append, splitLine, if_neg hb, ih hline, Option.map_map]
    rfl

theorem splitLine_bytes (text : List Char) :
    splitLine (bytes text) = (splitFeed text).map fun p => (bytes p.1, bytes p.2) := by
  induction text with
  | nil => rfl
  | cons c text ih =>
    rw [bytes_cons, splitFeed]
    by_cases hc : c = '\n'
    · subst hc
      rfl
    · have hm : 10 ∉ String.utf8EncodeChar c := fun hm => hc (eq_of_mem_utf8EncodeChar hm (by decide) rfl)
      rw [splitLine_append_of_not_mem hm, ih, if_neg hc, Option.map_map, Option.map_map]
      rfl

theorem getLast?_bytes_eq_iff (line : List Char) :
    (bytes line).getLast? = some 13 ↔ line.getLast? = some '\r' := by
  rcases List.eq_nil_or_concat line with rfl | ⟨front, c, rfl⟩
  · simp
  · have hne := @String.utf8EncodeChar_ne_nil c
    have hlast : (bytes (front ++ [c])).getLast? = (String.utf8EncodeChar c).getLast? := by
      rw [bytes_append, bytes_cons, bytes_nil, List.append_nil, List.getLast?_append]
      exact Option.or_of_isSome (List.getLast?_isSome.2 hne)
    rw [List.concat_eq_append, hlast, List.getLast?_concat]
    constructor
    · intro h
      rw [eq_of_mem_utf8EncodeChar (List.mem_of_getLast? h) (by decide) (d := '\r') rfl]
    · intro h
      cases h
      rfl

theorem dropReturn_bytes (line : List Char) : dropReturn (bytes line) = bytes (trimReturn line) := by
  unfold dropReturn trimReturn
  by_cases h : line.getLast? = some '\r'
  · rw [if_pos ((getLast?_bytes_eq_iff line).2 h), if_pos h]
    obtain ⟨front, rfl⟩ := List.getLast?_eq_some_iff.1 h
    have hr : bytes ['\r'] = [13] := rfl
    rw [bytes_append, hr, List.dropLast_concat, List.dropLast_concat]
  · rw [if_neg (mt (getLast?_bytes_eq_iff line).1 h), if_neg h]

/-! Hearing -/

theorem hear_of_splitFeed_eq_some {text line rest : List Char} (h : splitFeed text = some (line, rest))
    (outputEnd? : Option (Option ExitStatus)) :
    hear outputEnd? (bytes text) = (.line (.ofList (trimReturn line)), bytes rest) := by
  unfold hear
  rw [splitLine_bytes, h]
  change (hearBytes (dropReturn (bytes line)), bytes rest) = _
  rw [dropReturn_bytes, hearBytes, decodeUtf8_bytes]

/-- A row is heard as a line, whatever bytes stand behind it. -/
theorem hear_row {row : List Char} (hfeed : '\n' ∉ row) (outputEnd? : Option (Option ExitStatus))
    (behind : List UInt8) :
    hear outputEnd? (bytes row ++ 10 :: behind) = (.line (.ofList (trimReturn row)), behind) := by
  have hbytes : 10 ∉ bytes row := feed_not_mem_bytes hfeed
  have hsplit : splitLine (bytes row ++ 10 :: behind) = some (bytes row, behind) := by
    rw [splitLine_append_of_not_mem hbytes, splitLine, if_pos rfl, Option.map_some, List.append_nil]
  unfold hear
  rw [hsplit]
  change (hearBytes (dropReturn (bytes row)), behind) = _
  rw [dropReturn_bytes, hearBytes, decodeUtf8_bytes]

theorem hear_line {line : List Char} (hfeed : '\n' ∉ line) (hreturn : line.getLast? ≠ some '\r')
    (outputEnd? : Option (Option ExitStatus)) (behind : List UInt8) :
    hear outputEnd? (bytes line ++ 10 :: behind) = (.line (.ofList line), behind) := by
  have hrow := hear_row hfeed outputEnd? behind
  rwa [trimReturn, if_neg hreturn] at hrow

/-- At the end of the output the next line of a text is heard, and the later lines stay queued. -/
theorem hear_of_lines_eq_cons {text line : List Char} {later : List (List Char)}
    (h : lines text = line :: later) (status? : Option ExitStatus) :
    ∃ rest, lines rest = later ∧ hear (some status?) (bytes text) = (.line (.ofList line), bytes rest) := by
  have hne : text ≠ [] := by
    rintro rfl
    cases h
  cases hs : splitFeed text with
  | none =>
    rw [lines_of_splitFeed_eq_none hs hne] at h
    cases h
    refine ⟨[], rfl, ?_⟩
    unfold hear
    rw [splitLine_bytes, hs]
    change (if bytes text = [] then _ else (hearBytes (bytes text), [])) = _
    rw [if_neg (mt bytes_eq_nil_iff.1 hne), hearBytes, decodeUtf8_bytes]
    rfl
  | some p =>
    rw [lines_of_splitFeed_eq_some hs] at h
    cases h
    exact ⟨p.2, rfl, hear_of_splitFeed_eq_some hs _⟩

/-- A process that has printed a text and closed its output. -/
def Process.printed (text : String) : Process :=
  ⟨⟨⟨false, [], .goesOn⟩, fun _ => ⟨false, [], .goesOn⟩⟩, [], [], [], none, encodeUtf8 text, .mute⟩

/-- The lines of a text that is queued. -/
def queuedLines (text : String) : List String := (lines text.toList).map String.ofList

theorem eq_empty_of_queuedLines_eq_nil {text : String} (h : queuedLines text = []) : text = "" := by
  have htext : text.toList = [] := lines_eq_nil_iff.1 (List.map_eq_nil_iff.1 h)
  exact String.toList_eq_nil_iff.1 htext

theorem hear_of_queuedLines_eq_cons {text line : String} {later : List String}
    (h : queuedLines text = line :: later) (status? : Option ExitStatus) :
    ∃ rest, queuedLines rest = later ∧
      hear (some status?) (encodeUtf8 text) = (.line line, encodeUtf8 rest) := by
  obtain ⟨first, more, hlines, rfl, rfl⟩ := List.map_eq_cons_iff.1 h
  obtain ⟨rest, hrest, hhear⟩ := hear_of_lines_eq_cons hlines status?
  refine ⟨.ofList rest, ?_, ?_⟩
  · rw [queuedLines, String.toList_ofList, hrest]
  · rw [← bytes_toList, ← bytes_toList, String.toList_ofList, hhear]

theorem hear_of_queuedLines_eq_nil {text : String} (h : queuedLines text = []) (status? : Option ExitStatus) :
    hear (some status?) (encodeUtf8 text) = (.ended status?, []) := by
  rw [eq_empty_of_queuedLines_eq_nil h]
  rfl

end ScriptBench
