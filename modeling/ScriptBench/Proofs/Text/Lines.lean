import ScriptBench.Text.Lines

/-! Lines and rows of texts that are put together: a feed parts a text, and what stands on either side of it
is split on its own. -/
namespace ScriptBench.Text

/-- Splits a text at the first line feed, which is dropped. -/
def splitFeed : List Char → Option (List Char × List Char)
  | [] => none
  | c :: rest =>
    if c = '\n' then some ([], rest)
    else (splitFeed rest).map fun (line, rest) => (c :: line, rest)

/-- A text without a carriage return at its end. -/
def trimReturn (line : List Char) : List Char :=
  if line.getLast? = some '\r' then line.dropLast else line

theorem lines_of_splitFeed_eq_none {text : List Char} (h : splitFeed text = none) (hne : text ≠ []) :
    lines text = [text] := by
  induction text with
  | nil => simp at hne
  | cons c text ih =>
    rw [splitFeed] at h
    split at h
    · cases h
    · rename_i hc
      have htext : splitFeed text = none := Option.map_eq_none_iff.1 h
      have hcons : lines (c :: text) = pushFront c (lines text) := by
        rw [lines]
        · rintro rfl
          exact hc rfl
        · rintro rest rfl rfl
          simp [splitFeed] at htext
      rw [hcons]
      cases text with
      | nil => rfl
      | cons d text =>
        rw [ih htext (by simp)]
        rfl

theorem trimReturn_cons_of_ne_nil (c : Char) {line : List Char} (h : line ≠ []) :
    trimReturn (c :: line) = c :: trimReturn line := by
  obtain ⟨d, line, rfl⟩ := List.exists_cons_of_ne_nil h
  unfold trimReturn
  rw [List.getLast?_cons_cons]
  split <;> rfl

theorem lines_of_splitFeed_eq_some {text line rest : List Char} (h : splitFeed text = some (line, rest)) :
    lines text = trimReturn line :: lines rest := by
  induction text generalizing line with
  | nil => cases h
  | cons c text ih =>
    rw [splitFeed] at h
    split at h
    · rename_i hc
      subst hc
      cases h
      rfl
    · rename_i hc
      obtain ⟨⟨line, rest₁⟩, htext, h⟩ := Option.map_eq_some_iff.1 h
      cases h
      have ih := ih htext
      cases text with
      | nil => cases htext
      | cons d text =>
        by_cases hd : d = '\n'
        · -- the line ends here, so a carriage return belongs to its end
          subst hd
          cases htext
          by_cases hr : c = '\r'
          · subst hr
            rfl
          · rw [lines]
            · simp [pushFront, trimReturn, hr]
            · exact hc
            · rintro _ rfl _
              exact hr rfl
        · have hne : line ≠ [] := by
            rintro rfl
            rw [splitFeed, if_neg hd] at htext
            simp at htext
          rw [trimReturn_cons_of_ne_nil c hne, lines, ih]
          · rfl
          · exact hc
          · rintro _ _ h
            injection h with h _
            exact hd h

theorem lines_eq_nil_iff {text : List Char} : lines text = [] ↔ text = [] := by
  constructor
  · intro h
    cases hs : splitFeed text with
    | none =>
      by_cases hne : text = []
      · exact hne
      · rw [lines_of_splitFeed_eq_none hs hne] at h
        cases h
    | some p =>
      rw [lines_of_splitFeed_eq_some hs] at h
      cases h
  · rintro rfl
    rfl

/-! Feeds -/

theorem splitFeed_of_not_mem {text : List Char} (h : '\n' ∉ text) : splitFeed text = none := by
  induction text with
  | nil => rfl
  | cons c text ih =>
    have hc : c ≠ '\n' := fun hc => h (by simp [hc])
    have htext : '\n' ∉ text := fun hm => h (List.mem_cons_of_mem c hm)
    rw [splitFeed, if_neg hc, ih htext]
    rfl

theorem splitFeed_append_feed {row : List Char} (h : '\n' ∉ row) (rest : List Char) :
    splitFeed (row ++ '\n' :: rest) = some (row, rest) := by
  induction row with
  | nil => rfl
  | cons c row ih =>
    have hc : c ≠ '\n' := fun hc => h (by simp [hc])
    have hrow : '\n' ∉ row := fun hm => h (List.mem_cons_of_mem c hm)
    rw [List.cons_append, splitFeed, if_neg hc, ih hrow]
    rfl

/-- Every text is one row without a feed, or such a row with a feed and a text behind it. -/
@[elab_as_elim]
theorem row_induction {motive : List Char → Prop} (last : ∀ row, '\n' ∉ row → motive row)
    (feed : ∀ row rest, '\n' ∉ row → motive rest → motive (row ++ '\n' :: rest)) (text : List Char) :
    motive text := by
  induction hn : text.length using Nat.strongRecOn generalizing text with
  | ind n ih =>
    by_cases h : '\n' ∈ text
    · obtain ⟨row, rest, rfl, hrow⟩ := List.eq_append_cons_of_mem h
      exact feed row rest hrow (ih rest.length (by simp at hn; omega) rest rfl)
    · exact last text h

/-! Lines -/

theorem lines_of_not_mem {text : List Char} (h : '\n' ∉ text) (hne : text ≠ []) : lines text = [text] :=
  lines_of_splitFeed_eq_none (splitFeed_of_not_mem h) hne

theorem lines_append_feed {row : List Char} (h : '\n' ∉ row) (rest : List Char) :
    lines (row ++ '\n' :: rest) = trimReturn row :: lines rest :=
  lines_of_splitFeed_eq_some (splitFeed_append_feed h rest)

/-- A text that ends with a feed has its own lines, whatever stands behind it. -/
theorem lines_append_feed_append (text rest : List Char) :
    lines (text ++ '\n' :: rest) = lines (text ++ ['\n']) ++ lines rest := by
  induction text using row_induction with
  | last row hrow =>
    rw [lines_append_feed hrow, lines_append_feed hrow]
    rfl
  | feed row more hrow ih =>
    rw [List.append_assoc, List.append_assoc, List.cons_append, List.cons_append, lines_append_feed hrow,
      lines_append_feed hrow, ih]
    rfl

/-- Nothing, or lines that are all ended. -/
def EndsLine (text : String) : Prop := text = "" ∨ text.toList.getLast? = some '\n'

theorem lines_append_of_endsLine {text : String} (h : EndsLine text) (rest : List Char) :
    lines (text.toList ++ rest) = lines text.toList ++ lines rest := by
  rcases h with rfl | h
  · rfl
  · obtain ⟨front, hfront⟩ := List.getLast?_eq_some_iff.1 h
    have hall := lines_append_feed_append front rest
    rw [hfront, List.append_assoc, List.singleton_append, hall]

theorem trimReturn_of_not_mem {line : List Char} (h : '\r' ∉ line) : trimReturn line = line :=
  if_neg fun hlast => h (List.mem_of_getLast? hlast)

theorem mem_of_mem_trimReturn {line : List Char} {c : Char} (h : c ∈ trimReturn line) : c ∈ line := by
  unfold trimReturn at h
  split at h
  · exact line.dropLast_sublist.mem h
  · exact h

/-- The lines of a text hold no character that the text does not hold. -/
theorem mem_of_mem_lines {text line : List Char} {c : Char} (hline : line ∈ lines text) (hc : c ∈ line) :
    c ∈ text := by
  induction text using row_induction with
  | last row hrow =>
    by_cases hne : row = []
    · rw [hne] at hline
      cases hline
    · rw [lines_of_not_mem hrow hne] at hline
      rw [List.mem_singleton.1 hline] at hc
      exact hc
  | feed row rest hrow ih =>
    rw [lines_append_feed hrow] at hline
    rcases List.mem_cons.1 hline with hfirst | hmore
    · rw [hfirst] at hc
      exact List.mem_append_left _ (mem_of_mem_trimReturn hc)
    · exact List.mem_append_right _ (List.mem_cons_of_mem _ (ih hmore))

/-- The lines of a text without carriage returns, put together again, are the text. -/
theorem unlines_lines {text : List Char} (h : '\r' ∉ text) : unlines (lines (text ++ ['\n'])) = text := by
  induction text using row_induction with
  | last row hrow =>
    rw [lines_append_feed hrow, trimReturn_of_not_mem h]
    rfl
  | feed row rest hrow ih =>
    have hreturn : '\r' ∉ row := fun hm => h (List.mem_append_left _ hm)
    have ih := ih fun hm => h (by simp [hm])
    have hne : lines (rest ++ ['\n']) ≠ [] := fun hnil => by simpa using lines_eq_nil_iff.1 hnil
    obtain ⟨line, more, hlines⟩ := List.exists_cons_of_ne_nil hne
    rw [hlines] at ih
    rw [List.append_assoc, List.cons_append, lines_append_feed hrow, trimReturn_of_not_mem hreturn, hlines,
      unlines, ih]
    simp

/-! Runs of characters -/

section

variable {p : Char → Bool} {front rest : List Char}

theorem dropWhile_append_of_head? (hfront : ∀ c ∈ front, p c = true) (hrest : ∀ c ∈ rest.head?, p c = false) :
    (front ++ rest).dropWhile p = rest := by
  rw [List.dropWhile_append_of_pos hfront]
  cases rest with
  | nil => rfl
  | cons c rest => rw [List.dropWhile_cons, hrest c rfl, if_neg Bool.false_ne_true]

theorem takeWhile_append_of_head? (hfront : ∀ c ∈ front, p c = true) (hrest : ∀ c ∈ rest.head?, p c = false) :
    (front ++ rest).takeWhile p = front := by
  rw [List.takeWhile_append_of_pos hfront]
  cases rest with
  | nil => rw [List.takeWhile_nil, List.append_nil]
  | cons c rest => rw [List.takeWhile_cons, hrest c rfl, if_neg Bool.false_ne_true, List.append_nil]

theorem mem_takeWhile {c : Char} (h : c ∈ front.takeWhile p) : p c = true := List.all_eq_true.1 List.all_takeWhile c h

end

/-! Rows -/

theorem cut_of_not_mem {separator : Char} {part : List Char} (h : separator ∉ part) :
    cut separator part = [part] := by
  induction part with
  | nil => rfl
  | cons c part ih =>
    have hc : c ≠ separator := fun hc => h (by simp [hc])
    have hpart : separator ∉ part := fun hm => h (List.mem_cons_of_mem c hm)
    rw [cut, if_neg hc, ih hpart]
    rfl

theorem cut_ne_nil (separator : Char) (text : List Char) : cut separator text ≠ [] := by
  cases text with
  | nil => simp [cut]
  | cons c text =>
    rw [cut]
    split
    · simp
    · cases cut separator text <;> simp [pushFront]

/-- What stands on either side of a separator is cut on its own. -/
theorem cut_append (separator : Char) (a b : List Char) :
    cut separator (a ++ separator :: b) = cut separator a ++ cut separator b := by
  induction a with
  | nil => simp [cut]
  | cons c a ih =>
    rw [List.cons_append, cut, cut, ih]
    split
    · rfl
    · obtain ⟨part, more, hparts⟩ := List.exists_cons_of_ne_nil (cut_ne_nil separator a)
      rw [hparts]
      rfl

theorem rows_append_feed {row : List Char} (h : '\n' ∉ row) (rest : List Char) :
    rows (row ++ '\n' :: rest) = row :: rows rest := by
  rw [rows, cut_append, cut_of_not_mem h]
  rfl

/-- The lines of a text are its rows, each without the carriage return before its feed. An empty last row is
no line, and the last row keeps its carriage return. -/
theorem lines_eq_rows (text : List Char) :
    lines text = (rows text).dropLast.map trimReturn ++ (rows text).getLast?.toList.filter (· ≠ []) := by
  induction text using row_induction with
  | last row hrow =>
    rw [rows, cut_of_not_mem hrow]
    by_cases hne : row = []
    · subst hne
      rfl
    · simp [lines_of_not_mem hrow hne, hne]
  | feed row rest hrow ih =>
    have hne : rows rest ≠ [] := cut_ne_nil _ rest
    rw [lines_append_feed hrow, rows_append_feed hrow, ih, List.dropLast_cons_of_ne_nil hne,
      List.getLast?_cons, List.getLast?_eq_some_getLast hne]
    rfl

end ScriptBench.Text
