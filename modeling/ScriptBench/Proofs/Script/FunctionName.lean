import ScriptBench.Proofs.Text.Lines
import ScriptBench.Script.FunctionName

/-! Which function of a source is its test function: the one of the first definition that begins a row. The search
finds it just if there is one, and nothing that stands behind it counts. -/
namespace ScriptBench.Script

open Text

/-- A definition of a test function, from its keyword to its parenthesis. The name is `test_` and all word characters
that stand behind it, of which there are some. Blanks may be ends of rows. -/
inductive Definition : (name used : List Char) → Prop
  | intro {blanks word gap : List Char} (hne : blanks ≠ []) (hblanks : ∀ c ∈ blanks, isBlank c = true)
      (hword : word ≠ []) (hchars : ∀ c ∈ word, isWord c = true)
      (hends : ∀ c ∈ (gap ++ ['(']).head?, isWord c = false) (hgap : ∀ c ∈ gap, isBlank c = true) :
      Definition (['t', 'e', 's', 't', '_'] ++ word)
        (['d', 'e', 'f'] ++ blanks ++ ['t', 'e', 's', 't', '_'] ++ word ++ gap ++ ['('])

/-- A row begins behind some text: it is empty or ends with a feed. -/
def RowBegins (before : List Char) : Prop := before = [] ∨ before.getLast? = some '\n'

/-- A definition begins a row of a text, with something before it and something behind it. -/
structure Defines (text before name used behind : List Char) : Prop where
  begins : RowBegins before
  definition : Definition name used
  eq_append : text = before ++ (used ++ behind)

/-- No definition begins a row of a text before all of `seen` has passed. -/
def NoneWithin (text seen : List Char) : Prop :=
  ∀ before name used behind, Defines text before name used behind → seen.length ≤ before.length

/-- The definition before which none begins. -/
structure DefinesFirst (text before name used behind : List Char) : Prop where
  defines : Defines text before name used behind
  first : NoneWithin text before

/-! One definition -/

private theorem inRanges_word_blanks : ∀ n ∈ [9, 10, 11, 12, 13, 0x20, 0x85, 0xA0, 0x1680, 0x2000, 0x2001, 0x2002,
    0x2003, 0x2004, 0x2005, 0x2006, 0x2007, 0x2008, 0x2009, 0x200A, 0x2028, 0x2029, 0x202F, 0x205F, 0x3000],
    inRanges n wordRanges = false := by
  decide +kernel

theorem isWord_of_isBlank {c : Char} (h : isBlank c = true) : isWord c = false := by
  refine inRanges_word_blanks c.toNat ?_
  simp only [isBlank, Bool.or_eq_true, Bool.and_eq_true, decide_eq_true_eq, beq_iff_eq] at h
  simp only [List.mem_cons, List.not_mem_nil, or_false]
  omega

section

variable {rest text name used behind : List Char}

theorem definedName?_of_definition (h : Definition name used) (behind : List Char) :
    definedName? (used ++ behind) = some name := by
  obtain @⟨blanks, word, gap, hne, hblanks, hword, hchars, hends, hgap⟩ := h
  obtain ⟨b, blanks, rfl⟩ := List.exists_cons_of_ne_nil hne
  have hblank : isBlank b = true := hblanks b (by simp)
  have hstart : trimStart (blanks ++ 't' :: 'e' :: 's' :: 't' :: '_' :: (word ++ (gap ++ '(' :: behind))) =
      't' :: 'e' :: 's' :: 't' :: '_' :: (word ++ (gap ++ '(' :: behind)) := by
    refine dropWhile_append_of_head? (fun c hc => hblanks c (by simp [hc])) ?_
    rintro c ⟨rfl⟩
    decide
  have hends : ∀ c ∈ (gap ++ '(' :: behind).head?, isWord c = false := by
    cases gap with
    | nil => exact hends
    | cons d gap => exact hends
  have htake := takeWhile_append_of_head? hchars hends
  have hdrop := dropWhile_append_of_head? hchars hends
  have hopen : trimStart (gap ++ '(' :: behind) = '(' :: behind := by
    refine dropWhile_append_of_head? hgap ?_
    rintro c ⟨rfl⟩
    decide
  obtain ⟨w, word, rfl⟩ := List.exists_cons_of_ne_nil hword
  simp only [List.cons_append, List.nil_append, List.append_assoc] at hstart htake hdrop ⊢
  simp only [definedName?, hblank, if_true, hstart, htake, hdrop, hopen, List.cons_append, List.nil_append]

theorem exists_definition_of_definedName? (h : definedName? text = some name) :
    ∃ used behind, Definition name used ∧ text = used ++ behind := by
  unfold definedName? at h
  split at h
  · rename_i b rest
    split at h
    · rename_i hblank
      split at h
      · rename_i more hstart
        dsimp only at h
        split at h
        · rename_i w word behind hword hopen
          cases h
          have hrest : rest.takeWhile isBlank ++ trimStart rest = rest := List.takeWhile_append_dropWhile
          have hmore : more.takeWhile isWord ++ more.dropWhile isWord = more := List.takeWhile_append_dropWhile
          have hgap : (more.dropWhile isWord).takeWhile isBlank ++ trimStart (more.dropWhile isWord) =
              more.dropWhile isWord := List.takeWhile_append_dropWhile
          -- what stands behind the word is not a word character, be it a blank or the parenthesis
          have hends : ∀ c ∈ ((more.dropWhile isWord).takeWhile isBlank ++ ['(']).head?, isWord c = false := by
            intro c hc
            have hhead := List.head?_dropWhile_not isWord more
            rw [← hgap, hopen] at hhead
            cases hblanks : (more.dropWhile isWord).takeWhile isBlank with
            | nil =>
              rw [hblanks] at hc
              cases hc
              decide
            | cons d gap =>
              rw [hblanks] at hc hhead
              cases hc
              simpa using hhead
          have hne : more.takeWhile isWord ≠ [] := by simp [hword]
          have hblanks : ∀ c ∈ b :: rest.takeWhile isBlank, isBlank c = true :=
            List.forall_mem_cons.2 ⟨hblank, fun c hc => mem_takeWhile hc⟩
          refine ⟨_, behind, Definition.intro (List.cons_ne_nil _ _) hblanks hne (fun c hc => mem_takeWhile hc) hends
            (fun c hc => mem_takeWhile hc), ?_⟩
          rw [hstart] at hrest
          rw [hopen] at hgap
          calc 'd' :: 'e' :: 'f' :: b :: rest
              = 'd' :: 'e' :: 'f' :: b :: (rest.takeWhile isBlank ++ 't' :: 'e' :: 's' :: 't' :: '_' ::
                  (more.takeWhile isWord ++ ((more.dropWhile isWord).takeWhile isBlank ++ '(' :: behind))) := by
                rw [hgap, hmore, hrest]
            _ = _ := by simp
        · cases h
      · cases h
    · cases h
  · cases h

theorem Definition.eq_def_append (h : Definition name used) : ∃ rest, used = 'd' :: 'e' :: 'f' :: rest := by
  cases h
  exact ⟨_, rfl⟩

/-- A definition is over with its first parenthesis. -/
theorem Definition.eq_nil_of_open {front : List Char} (h : Definition name (front ++ '(' :: rest)) : rest = [] := by
  generalize hused : front ++ '(' :: rest = used at h
  obtain @⟨blanks, word, gap, hne, hblanks, hword, hchars, hends, hgap⟩ := h
  rcases List.eq_nil_or_concat rest with rfl | ⟨rest, last, rfl⟩
  · rfl
  · rw [List.concat_eq_append, ← List.cons_append, ← List.append_assoc] at hused
    have hmem : '(' ∈ ['d', 'e', 'f'] ++ blanks ++ ['t', 'e', 's', 't', '_'] ++ word ++ gap := by
      rw [← (List.append_inj' hused rfl).1]
      simp
    simp only [List.mem_append] at hmem
    rcases hmem with (((hmem | hmem) | hmem) | hmem) | hmem
    · exact absurd hmem (by decide)
    · exact absurd (hblanks _ hmem) (by decide)
    · exact absurd hmem (by decide)
    · exact absurd (hchars _ hmem) (by decide)
    · exact absurd (hgap _ hmem) (by decide)

/-- Where nothing of a word stands behind `test_`, there is no definition. -/
theorem not_definition_of_bare_name {blanks gap : List Char} (hblanks : ∀ c ∈ blanks, isBlank c = true)
    (hgap : ∀ c ∈ gap, isBlank c = true) (name used behind' : List Char)
    (heq : ['d', 'e', 'f'] ++ blanks ++ ['t', 'e', 's', 't', '_'] ++ gap ++ '(' :: behind = used ++ behind') :
    ¬Definition name used := by
  intro h
  have hname := definedName?_of_definition h behind'
  rw [← heq] at hname
  cases blanks with
  | nil => exact absurd hname (by simp [definedName?, isBlank])
  | cons b blanks =>
    have hstart : trimStart (blanks ++ 't' :: 'e' :: 's' :: 't' :: '_' :: (gap ++ '(' :: behind)) =
        't' :: 'e' :: 's' :: 't' :: '_' :: (gap ++ '(' :: behind) := by
      refine dropWhile_append_of_head? (fun c hc => hblanks c (by simp [hc])) ?_
      rintro c ⟨rfl⟩
      decide
    have hword : (gap ++ '(' :: behind).takeWhile isWord = [] := by
      cases gap with
      | nil => rfl
      | cons d gap => simp [isWord_of_isBlank (hgap d (by simp))]
    simp only [List.cons_append, List.nil_append, List.append_assoc] at hname hstart
    simp only [definedName?, hblanks b (by simp), if_true, hstart, hword] at hname
    cases hname

end

/-! The search -/

section

variable {text seen before name used behind : List Char}

theorem rowBegins_concat_iff {c : Char} : RowBegins (seen ++ [c]) ↔ c = '\n' := by
  simp [RowBegins]

theorem NoneWithin.nil : NoneWithin text [] := fun _ _ _ _ _ => Nat.zero_le _

/-- Text may pass at whose front a row begins only without a definition. -/
theorem NoneWithin.concat {c : Char} {rest : List Char} (h : NoneWithin (seen ++ c :: rest) seen)
    (hfront : RowBegins seen → definedName? (c :: rest) = none) :
    NoneWithin (seen ++ c :: rest) (seen ++ [c]) := by
  intro before name used behind hdef
  have hle := h before name used behind hdef
  rcases Nat.lt_or_eq_of_le hle with hlt | heq
  · simp
    omega
  · obtain ⟨rfl, hrest⟩ := List.append_inj hdef.eq_append heq
    have hname := definedName?_of_definition hdef.definition behind
    rw [← hrest, hfront hdef.begins] at hname
    cases hname

/-- The search goes on behind text in which it found nothing. -/
theorem findName?_spec {atFront : Bool} {rest : List Char} (hfront : atFront = true ↔ RowBegins seen)
    (h : NoneWithin (seen ++ rest) seen) :
    match findName? atFront rest with
    | some name => ∃ before used behind, DefinesFirst (seen ++ rest) before name used behind
    | none => ∀ before name used behind, ¬Defines (seen ++ rest) before name used behind := by
  induction rest generalizing seen atFront with
  | nil =>
    rintro before name used behind ⟨hbegins, hdef, heq⟩
    have hle := h before name used behind ⟨hbegins, hdef, heq⟩
    obtain ⟨more, rfl⟩ := hdef.eq_def_append
    have hlength := congrArg List.length heq
    simp at hlength
    omega
  | cons c rest ih =>
    cases hname : if atFront then definedName? (c :: rest) else none with
    | some name =>
      rw [findName?, hname]
      obtain ⟨hat, hname⟩ := Option.ite_none_right_eq_some.1 hname
      obtain ⟨used, behind, hdef, heq⟩ := exists_definition_of_definedName? hname
      exact ⟨seen, used, behind, ⟨hfront.1 hat, hdef, by rw [heq]⟩, h⟩
    | none =>
      have hnone : NoneWithin (seen ++ c :: rest) (seen ++ [c]) :=
        h.concat fun hbegins => by rwa [if_pos (hfront.2 hbegins)] at hname
      have hc : (c == '\n') = true ↔ RowBegins (seen ++ [c]) := by
        rw [rowBegins_concat_iff, beq_iff_eq]
      rw [findName?, hname]
      have ih := ih hc (by rwa [List.append_assoc])
      rwa [List.append_assoc] at ih

theorem DefinesFirst.name_unique {before' name' used' behind' : List Char}
    (h : DefinesFirst text before name used behind) (h' : DefinesFirst text before' name' used' behind') :
    name' = name := by
  have hlength : before.length = before'.length :=
    Nat.le_antisymm (h.first _ _ _ _ h'.defines) (h'.first _ _ _ _ h.defines)
  have heq := h.defines.eq_append.symm.trans h'.defines.eq_append
  obtain ⟨-, hrest⟩ := List.append_inj heq hlength
  have hname := definedName?_of_definition h.defines.definition behind
  rw [hrest, definedName?_of_definition h'.defines.definition behind'] at hname
  exact Option.some_inj.1 hname

/-- The first definition stays the first, whatever stands behind it: none that begins before it ends behind it. -/
theorem DefinesFirst.replace (h : DefinesFirst text before name used behind) (behind' : List Char) :
    DefinesFirst (before ++ (used ++ behind')) before name used behind' := by
  obtain ⟨⟨hbegins, hdef, rfl⟩, hfirst⟩ := h
  refine ⟨⟨hbegins, hdef, rfl⟩, ?_⟩
  rintro front name' used' rest ⟨hbegins', hdef', heq⟩
  refine Nat.le_of_not_lt fun hlt => ?_
  rw [← List.append_assoc, ← List.append_assoc] at heq
  have hwithin : ∃ more, before ++ used = front ++ used' ++ more := by
    rcases List.append_eq_append_iff.1 heq with ⟨excess, hexcess, -⟩ | ⟨more, hmore, -⟩
    · -- the parenthesis of the first definition is the last character of the other one too
      obtain ⟨used, rfl⟩ : ∃ word, used = word ++ ['('] := by
        cases hdef
        exact ⟨_, rfl⟩
      have hprefix : front <+: before :=
        List.prefix_of_prefix_length_le (hexcess ▸ List.prefix_append front used')
          (by rw [List.append_assoc]; exact List.prefix_append before _) (Nat.le_of_lt hlt)
      obtain ⟨gap, rfl⟩ := hprefix
      simp only [List.append_assoc, List.append_cancel_left_eq, List.cons_append, List.nil_append] at hexcess
      rw [← List.append_assoc] at hexcess
      rw [hexcess] at hdef'
      have hnil := hdef'.eq_nil_of_open
      subst hnil
      exact ⟨[], by simp [hexcess]⟩
    · exact ⟨more, hmore⟩
  obtain ⟨more, hmore⟩ := hwithin
  have hle := hfirst front name' used' (more ++ behind)
    ⟨hbegins', hdef', by rw [← List.append_assoc, hmore]; simp⟩
  omega

theorem findName?_eq_some_iff :
    findName? true text = some name ↔ ∃ before used behind, DefinesFirst text before name used behind := by
  have hspec := findName?_spec (iff_of_true rfl (Or.inl rfl)) (NoneWithin.nil : NoneWithin text [])
  rw [List.nil_append] at hspec
  cases hfound : findName? true text with
  | some found =>
    rw [hfound] at hspec
    constructor
    · rintro ⟨rfl⟩
      exact hspec
    · rintro ⟨_, _, _, hfirst⟩
      obtain ⟨_, _, _, hfirst'⟩ := hspec
      rw [hfirst.name_unique hfirst']
  | none =>
    rw [hfound] at hspec
    refine iff_of_false nofun ?_
    rintro ⟨_, _, _, hfirst⟩
    exact hspec _ _ _ _ hfirst.defines

theorem findName?_eq_none_iff :
    findName? true text = none ↔ ∀ before name used behind, ¬Defines text before name used behind := by
  have hspec := findName?_spec (iff_of_true rfl (Or.inl rfl)) (NoneWithin.nil : NoneWithin text [])
  rw [List.nil_append] at hspec
  cases hfound : findName? true text with
  | some found =>
    rw [hfound] at hspec
    obtain ⟨_, _, _, hfirst⟩ := hspec
    exact iff_of_false nofun fun hall => hall _ _ _ _ hfirst.defines
  | none =>
    rw [hfound] at hspec
    exact iff_of_true rfl hspec

theorem rows_append_of_rowBegins (h : RowBegins before) (rest : List Char) :
    ∃ front, rows (before ++ rest) = front ++ rows rest := by
  rcases h with rfl | h
  · exact ⟨[], rfl⟩
  · obtain ⟨front, rfl⟩ := List.getLast?_eq_some_iff.1 h
    refine ⟨rows front, ?_⟩
    rw [List.append_assoc, List.singleton_append]
    exact cut_append '\n' front rest

/-- The row of a definition begins with its keyword. -/
theorem Defines.exists_row (h : Defines text before name used behind) : ∃ row ∈ rows text, ['d', 'e', 'f'] <+: row := by
  obtain ⟨hbegins, hdef, rfl⟩ := h
  obtain ⟨more, rfl⟩ := hdef.eq_def_append
  obtain ⟨front, hfront⟩ := rows_append_of_rowBegins hbegins ('d' :: 'e' :: 'f' :: more ++ behind)
  have hne := cut_ne_nil '\n' (more ++ behind)
  obtain ⟨row, rest, hrow⟩ := List.exists_cons_of_ne_nil hne
  have hrows : rows ('d' :: 'e' :: 'f' :: more ++ behind) = ('d' :: 'e' :: 'f' :: row) :: rest := by
    simp [rows, cut, hrow, pushFront]
  rw [hfront, hrows]
  exact ⟨_, by simp, List.prefix_append ['d', 'e', 'f'] row⟩

end

/-- The name that is found in a source is the one of the first definition that begins a row, and none is found just
if no definition begins one. What stands behind the first does not count. Rows that begin otherwise than with the
keyword, indented ones and such of asynchronous functions, define nothing, and neither does a name without a word
character behind `test_`. -/
theorem functionName?_names_first_definition (source : String) :
    (∀ name, functionName? source = some name ↔
      ∃ before used behind, DefinesFirst source.toList before name.toList used behind) ∧
    (functionName? source = none ↔ ∀ before name used behind, ¬Defines source.toList before name used behind) ∧
    (∀ before name used behind, DefinesFirst source.toList before name used behind →
      ∀ behind', functionName? (String.ofList (before ++ (used ++ behind'))) = some (String.ofList name)) ∧
    ((∀ row ∈ rows source.toList, ¬['d', 'e', 'f'] <+: row) → functionName? source = none) ∧
    ∀ before blanks gap behind, (∀ c ∈ blanks, isBlank c = true) → (∀ c ∈ gap, isBlank c = true) →
      source.toList = before ++ (['d', 'e', 'f'] ++ blanks ++ ['t', 'e', 's', 't', '_'] ++ gap ++ '(' :: behind) →
        ∀ name used behind', ¬Defines source.toList before name used behind' := by
  have hnone : functionName? source = none ↔
      ∀ before name used behind, ¬Defines source.toList before name used behind :=
    Option.map_eq_none_iff.trans findName?_eq_none_iff
  refine ⟨?_, hnone, ?_, ?_, ?_⟩
  · intro name
    rw [← findName?_eq_some_iff, functionName?, Option.map_eq_some_iff]
    constructor
    · rintro ⟨found, hfound, rfl⟩
      rw [hfound, String.toList_ofList]
    · intro hfound
      exact ⟨name.toList, hfound, String.ofList_toList⟩
  · intro before name used behind h behind'
    have hfound := findName?_eq_some_iff.2 ⟨_, _, _, h.replace behind'⟩
    rw [functionName?, String.toList_ofList, hfound]
    rfl
  · intro hrows
    refine hnone.2 fun before name used behind h => ?_
    obtain ⟨row, hmem, hrow⟩ := h.exists_row
    exact hrows row hmem hrow
  · intro before blanks gap behind hblanks hgap heq name used behind' h
    rw [h.eq_append, List.append_cancel_left_eq] at heq
    exact not_definition_of_bare_name hblanks hgap name used behind' heq.symm h.definition

theorem functionName?_names_first_definition_parted :
    (∃ before used behind,
      DefinesFirst "async def test_a():\n  def test_b():\ndef test_ (x):\ndef\r\n test_é1 \n(y):".toList before
        "test_é1".toList used behind ∧
      ∀ behind', functionName? (String.ofList (before ++ (used ++ behind'))) = some "test_é1") ∧
    functionName? "async def test_a():\n  def test_b():" = none ∧
    ∀ name used behind, ¬Defines "def test_ (x):".toList [] name used behind := by
  obtain ⟨hsome, -, hreplace, -, -⟩ := functionName?_names_first_definition
    "async def test_a():\n  def test_b():\ndef test_ (x):\ndef\r\n test_é1 \n(y):"
  obtain ⟨-, -, -, hrows, -⟩ := functionName?_names_first_definition "async def test_a():\n  def test_b():"
  obtain ⟨-, -, -, -, hbare⟩ := functionName?_names_first_definition "def test_ (x):"
  obtain ⟨before, used, behind, hfirst⟩ := (hsome "test_é1").1 (by decide +kernel)
  refine ⟨⟨before, used, behind, hfirst, ?_⟩, hrows (by decide +kernel), ?_⟩
  · intro behind'
    rw [hreplace _ _ _ _ hfirst behind', String.ofList_toList]
  · have hblank : ∀ c ∈ [' '], isBlank c = true := List.all_eq_true.1 (by decide)
    exact hbare [] [' '] [' '] "x):".toList hblank hblank (by decide)

end ScriptBench.Script
