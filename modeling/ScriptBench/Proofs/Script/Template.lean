import ScriptBench.Proofs.Text.Lines
import ScriptBench.Script.Template

/-! Filling a template row by row. A placeholder never passes a feed, so a row of the filled text depends on its
own row alone, and a row with one placeholder holds the value in its place. -/
namespace ScriptBench.Script

open Text

/-- A placeholder as it stands in a template. -/
def hole (name : List Char) : List Char := '_' :: '_' :: name ++ ['_', '_']

/-! Placeholders -/

theorem append_of_restOfName? {text name rest : List Char} (h : restOfName? text = some (name, rest)) :
    text = name ++ '_' :: '_' :: rest := by
  induction text generalizing name with
  | nil => cases h
  | cons c text ih =>
    unfold restOfName? at h
    split at h
    · split at h
      · rename_i more rest' hmore
        cases h
        rw [ih hmore]
        rfl
      · split at h
        · split at h
          · cases h
            rfl
          · cases h
        · cases h
    · cases h

theorem eq_append_of_placeholder? {text name rest : List Char} (h : placeholder? text = some (name, rest)) :
    text = hole name ++ rest := by
  unfold placeholder? at h
  split at h
  · split at h
    · obtain ⟨⟨more, rest'⟩, hmore, h⟩ := Option.map_eq_some_iff.1 h
      cases h
      rw [append_of_restOfName? hmore]
      simp [hole]
    · cases h
  · cases h

theorem restOfName?_append_feed (text rest : List Char) :
    restOfName? (text ++ '\n' :: rest) = (restOfName? text).map fun p => (p.1, p.2 ++ '\n' :: rest) := by
  induction text with
  | nil => rfl
  | cons c text ih =>
    unfold restOfName?
    simp only [List.cons_append]
    by_cases hc : (isCapital c || c == '_') = true
    · rw [if_pos hc, if_pos hc, ih]
      cases restOfName? text with
      | some p => rfl
      | none =>
        -- a feed is no underscore, so the two underscores stand before it or nowhere
        rcases text with _ | ⟨d, _ | ⟨e, text⟩⟩
        · rfl
        · by_cases hd : d = '_' <;> simp [hd]
        · by_cases hd : d = '_' <;> by_cases he : e = '_' <;> by_cases hcapital : isCapital c = true <;>
            simp [hd, he, hcapital]
    · rw [if_neg hc, if_neg hc]
      rfl

/-- Whether a text begins with a placeholder does not depend on what stands behind a feed. -/
theorem placeholder?_append_feed (text rest : List Char) :
    placeholder? (text ++ '\n' :: rest) = (placeholder? text).map fun p => (p.1, p.2 ++ '\n' :: rest) := by
  match text with
  | [] => rfl
  | [c] => by_cases hc : c = '_' <;> simp [placeholder?, hc]
  | [c, d] => by_cases hc : c = '_' <;> by_cases hd : d = '_' <;> simp [placeholder?, hc, hd, isCapital]
  | c :: d :: e :: text =>
    by_cases hc : c = '_'
    · by_cases hd : d = '_'
      · subst hc hd
        by_cases he : isCapital e = true
        · simp [placeholder?, he, restOfName?_append_feed, Function.comp_def]
        · simp [placeholder?, he]
      · simp [placeholder?, hd]
    · simp [placeholder?, hc]

/-! Filling -/

variable {values : List (List Char × List Char)}

theorem fillChars_nil : fillChars values [] = [] := by
  rw [fillChars]
  rfl

theorem fillChars_of_placeholder? {text name rest : List Char} (h : placeholder? text = some (name, rest)) :
    fillChars values text = (values.lookup name).getD (hole name) ++ fillChars values rest := by
  rw [fillChars]
  split
  · rename_i name' rest' h'
    rw [h] at h'
    cases h'
    rfl
  · rename_i h'
    rw [h] at h'
    cases h'

theorem fillChars_cons {c : Char} {text : List Char} (h : placeholder? (c :: text) = none) :
    fillChars values (c :: text) = c :: fillChars values text := by
  rw [fillChars]
  split
  · rename_i h'
    rw [h] at h'
    cases h'
  · rfl

/-- What stands on either side of a feed is filled on its own. -/
theorem fillChars_append_feed (text rest : List Char) :
    fillChars values (text ++ '\n' :: rest) = fillChars values text ++ '\n' :: fillChars values rest := by
  induction hn : text.length using Nat.strongRecOn generalizing text with
  | ind n ih =>
    have hlocal := placeholder?_append_feed text rest
    cases hp : placeholder? text with
    | some p =>
      obtain ⟨name, behind⟩ := p
      rw [hp] at hlocal
      have hlt := placeholder?_length hp
      rw [fillChars_of_placeholder? hlocal, fillChars_of_placeholder? hp,
        ih behind.length (by omega) behind rfl, List.append_assoc]
    | none =>
      rw [hp] at hlocal
      cases text with
      | nil => rw [List.nil_append, fillChars_cons hlocal, fillChars_nil, List.nil_append]
      | cons c text =>
        have ih := ih text.length (by simp at hn; omega) text rfl
        rw [List.cons_append] at hlocal ⊢
        rw [fillChars_cons hlocal, fillChars_cons hp, ih, List.cons_append]

/-- Values without feeds bring none into a row. -/
theorem feed_not_mem_fillChars (hvalues : ∀ v ∈ values, '\n' ∉ v.2) {text : List Char} (h : '\n' ∉ text) :
    '\n' ∉ fillChars values text := by
  induction hn : text.length using Nat.strongRecOn generalizing text with
  | ind n ih =>
    cases hp : placeholder? text with
    | some p =>
      obtain ⟨name, rest⟩ := p
      have htext := eq_append_of_placeholder? hp
      rw [htext, List.mem_append, not_or] at h
      have hrest := ih rest.length (hn ▸ placeholder?_length hp) h.2 rfl
      have hvalue : '\n' ∉ (values.lookup name).getD (hole name) := by
        cases hlookup : values.lookup name with
        | none => exact h.1
        | some value =>
          obtain ⟨before, behind, hsplit, _⟩ := List.lookup_eq_some_iff.1 hlookup
          exact hvalues (name, value) (by rw [hsplit]; simp)
      rw [fillChars_of_placeholder? hp, List.mem_append, not_or]
      exact ⟨hvalue, hrest⟩
    | none =>
      cases text with
      | nil => rw [fillChars_nil]; exact h
      | cons c text =>
        rw [List.mem_cons, not_or] at h
        have ih := ih text.length (by simp at hn; omega) h.2 rfl
        rw [fillChars_cons hp, List.mem_cons, not_or]
        exact ⟨h.1, ih⟩

/-- The rows of a filled text are the filled rows of the text. -/
theorem rows_fillChars (hvalues : ∀ v ∈ values, '\n' ∉ v.2) (text : List Char) :
    rows (fillChars values text) = (rows text).map (fillChars values) := by
  induction text using row_induction with
  | last row hrow =>
    have hfilled := feed_not_mem_fillChars hvalues hrow
    rw [rows, rows, cut_of_not_mem hfilled, cut_of_not_mem hrow]
    rfl
  | feed row rest hrow ih =>
    have hfilled := feed_not_mem_fillChars hvalues hrow
    rw [fillChars_append_feed, rows_append_feed hfilled, rows_append_feed hrow, ih]
    rfl

/-! Rows with one placeholder -/

/-- The first placeholder of a row: what stands before it, its name and what stands behind it. -/
def firstHole? : List Char → Option (List Char × List Char × List Char)
  | [] => none
  | c :: text =>
    match placeholder? (c :: text) with
    | some (name, rest) => some ([], name, rest)
    | none => (firstHole? text).map fun (before, name, behind) => (c :: before, name, behind)

theorem fillChars_of_firstHole?_eq_none {row : List Char} (h : firstHole? row = none) :
    fillChars values row = row := by
  induction row with
  | nil => exact fillChars_nil
  | cons c row ih =>
    unfold firstHole? at h
    split at h
    · cases h
    · rename_i hp
      rw [fillChars_cons hp, ih (Option.map_eq_none_iff.1 h)]

theorem fillChars_of_firstHole?_eq_some {row before name behind : List Char}
    (h : firstHole? row = some (before, name, behind)) :
    fillChars values row = before ++ (values.lookup name).getD (hole name) ++ fillChars values behind := by
  induction row generalizing before with
  | nil => cases h
  | cons c row ih =>
    unfold firstHole? at h
    split at h
    · rename_i hp
      cases h
      exact fillChars_of_placeholder? hp
    · rename_i hp
      obtain ⟨⟨before', name', behind'⟩, hrow, h⟩ := Option.map_eq_some_iff.1 h
      cases h
      rw [fillChars_cons hp, ih hrow]
      rfl

/-- All places in a row where one of some placeholders stands. -/
def occurrences (names : List (List Char)) : List Char → List (List Char × List Char × List Char)
  | [] => []
  | c :: text =>
    (if c = '_' then
      (names.filter fun name => (hole name).isPrefixOf (c :: text)).map fun name =>
        ([], name, (c :: text).drop (hole name).length)
    else []) ++ (occurrences names text).map fun (before, name, behind) => (c :: before, name, behind)

theorem mem_occurrences {names : List (List Char)} {row before name behind : List Char} :
    (before, name, behind) ∈ occurrences names row ↔ name ∈ names ∧ row = before ++ hole name ++ behind := by
  induction row generalizing before with
  | nil => simp [occurrences, hole]
  | cons c row ih =>
    rw [occurrences, List.mem_append]
    cases before with
    | nil =>
      have hlater : ¬([], name, behind) ∈
          (occurrences names row).map fun (before, name, behind) => (c :: before, name, behind) := by
        intro hm
        obtain ⟨_, _, heq⟩ := List.mem_map.1 hm
        cases heq
      simp only [hlater, or_false, List.nil_append]
      by_cases hc : c = '_'
      · subst hc
        simp only [if_true, List.mem_map, List.mem_filter, List.isPrefixOf_iff_prefix, Prod.mk.injEq, true_and]
        constructor
        · rintro ⟨_, ⟨hmem, hprefix⟩, rfl, rfl⟩
          exact ⟨hmem, (List.prefix_iff_eq_append.1 hprefix).symm⟩
        · rintro ⟨hmem, htext⟩
          refine ⟨name, ⟨hmem, behind, htext.symm⟩, rfl, ?_⟩
          rw [htext, List.drop_left]
      · simp [hole, hc]
    | cons d before =>
      have hfirst : ¬(d :: before, name, behind) ∈ (if c = '_' then
          (names.filter fun name => (hole name).isPrefixOf (c :: row)).map fun name =>
            ([], name, (c :: row).drop (hole name).length)
        else []) := by
        split
        · intro hm
          obtain ⟨_, _, heq⟩ := List.mem_map.1 hm
          cases heq
        · simp
      simp only [hfirst, false_or, List.mem_map, Prod.mk.injEq, List.cons.injEq, List.cons_append]
      constructor
      · rintro ⟨⟨before', name', behind'⟩, hm, ⟨rfl, rfl⟩, rfl, rfl⟩
        obtain ⟨hmem, hrow⟩ := ih.1 hm
        exact ⟨hmem, rfl, hrow⟩
      · rintro ⟨hmem, rfl, hrow⟩
        exact ⟨(before, name, behind), ih.2 ⟨hmem, hrow⟩, ⟨rfl, rfl⟩, rfl, rfl⟩

/-- A row in which no placeholder stands, or only one. It is one of those with the given names. -/
def IsSingle (names : List (List Char)) (row : List Char) : Prop :=
  occurrences names row = (firstHole? row).toList ∧ ∀ h ∈ firstHole? row, firstHole? h.2.2 = none

instance (names : List (List Char)) (row : List Char) : Decidable (IsSingle names row) :=
  inferInstanceAs (Decidable (_ ∧ _))

section

variable {names : List (List Char)} {row : List Char} (h : IsSingle names row)

include h

theorem IsSingle.firstHole?_eq_some_iff {before name behind : List Char} :
    firstHole? row = some (before, name, behind) ↔ name ∈ names ∧ row = before ++ hole name ++ behind := by
  rw [← mem_occurrences, h.1, Option.mem_toList]

theorem IsSingle.fillChars_of_free (hfree : ∀ name ∈ names, ¬hole name <:+: row) :
    fillChars values row = row := by
  cases hfirst : firstHole? row with
  | none => exact fillChars_of_firstHole?_eq_none hfirst
  | some p =>
    obtain ⟨before, name, behind⟩ := p
    obtain ⟨hmem, hrow⟩ := h.firstHole?_eq_some_iff.1 hfirst
    exact (hfree name hmem ⟨before, behind, hrow.symm⟩).elim

theorem IsSingle.fillChars_of_hole {before name behind : List Char} (hname : name ∈ names)
    (hrow : row = before ++ hole name ++ behind) :
    fillChars values row = before ++ (values.lookup name).getD (hole name) ++ behind := by
  have hfirst := h.firstHole?_eq_some_iff.2 ⟨hname, hrow⟩
  rw [fillChars_of_firstHole?_eq_some hfirst, fillChars_of_firstHole?_eq_none (h.2 _ hfirst)]

end

/-! Filled templates -/

/-- A script that is a template with values in the places of their placeholders. Row by row it is the template,
but for the rows with a placeholder, and in those but for the value. -/
structure Filled (template : String) (values : List (String × String)) (script : String) : Prop where
  length_eq : (rows script.toList).length = (rows template.toList).length
  untouched : ∀ (i : Nat) (row : List Char), (rows template.toList)[i]? = some row →
    (∀ v ∈ values, ¬hole v.1.toList <:+: row) → (rows script.toList)[i]? = some row
  filled : ∀ (i : Nat) (before behind : List Char), ∀ v ∈ values,
    (rows template.toList)[i]? = some (before ++ hole v.1.toList ++ behind) →
    (rows script.toList)[i]? = some (before ++ v.2.toList ++ behind)
  one : ∀ (i : Nat) (before behind before' behind' : List Char), ∀ v ∈ values, ∀ v' ∈ values,
    (rows template.toList)[i]? = some (before ++ hole v.1.toList ++ behind) →
    (rows template.toList)[i]? = some (before' ++ hole v'.1.toList ++ behind') →
    before = before' ∧ v.1 = v'.1 ∧ behind = behind'
  placed : ∀ v ∈ values, ∃ (i : Nat) (before behind : List Char),
    (rows template.toList)[i]? = some (before ++ hole v.1.toList ++ behind)

/-- A script tells the values that were put into it. -/
theorem Filled.value_eq {template script : String} {values values' : List (String × String)}
    (h : Filled template values script) (h' : Filled template values' script) {name a b : String}
    (ha : (name, a) ∈ values) (hb : (name, b) ∈ values') : a = b := by
  obtain ⟨i, before, behind, hrow⟩ := h.placed _ ha
  have hfilled := h.filled i before behind _ ha hrow
  have hfilled' := h'.filled i before behind _ hb hrow
  rw [hfilled] at hfilled'
  injection hfilled' with heq
  exact String.toList_inj.1 (List.append_cancel_left (List.append_cancel_right heq))

theorem Filled.values_eq {template script : String} {values values' : List (String × String)}
    (h : Filled template values script) (h' : Filled template values' script)
    (hnames : values.map (·.1) = values'.map (·.1)) : values = values' := by
  have hlength : values.length = values'.length := by
    have hmaps := congrArg List.length hnames
    rwa [List.length_map, List.length_map] at hmaps
  refine List.ext_getElem hlength fun i hi hi' => ?_
  have hname : values[i].1 = values'[i].1 := by
    have hfirst := congrArg (·[i]?) hnames
    simpa [hi, hi'] using hfirst
  have ha : (values[i].1, values[i].2) ∈ values := List.getElem_mem hi
  have hb : (values[i].1, values'[i].2) ∈ values' := hname ▸ List.getElem_mem hi'
  exact Prod.ext hname (h.value_eq h' ha hb)

/-- The characters of texts. -/
inductive Spelled : List String → List (List Char) → Prop
  | nil : Spelled [] []
  | cons (row : List Char) {texts : List String} {rows : List (List Char)} (h : Spelled texts rows) :
    Spelled (String.ofList row :: texts) (row :: rows)

theorem Spelled.map_toList {texts : List String} {spelling : List (List Char)} (h : Spelled texts spelling) :
    texts.map String.toList = spelling := by
  induction h with
  | nil => rfl
  | cons row _ ih => rw [List.map_cons, String.toList_ofList, ih]

/-- Rows with certain placeholders, each of which stands in one row alone. -/
structure Holed (names rows : List (List Char)) : Prop where
  nodup : names.Nodup
  feeds : ∀ row ∈ rows, '\n' ∉ row
  single : ∀ row ∈ rows, IsSingle names row
  holes : (rows.filterMap firstHole?).map (·.2.1) = names

instance (names rows : List (List Char)) : Decidable (Holed names rows) :=
  decidable_of_iff (names.Nodup ∧ (∀ row ∈ rows, '\n' ∉ row) ∧ (∀ row ∈ rows, IsSingle names row) ∧
      (rows.filterMap firstHole?).map (·.2.1) = names)
    ⟨fun ⟨nodup, feeds, single, holes⟩ => ⟨nodup, feeds, single, holes⟩,
      fun ⟨nodup, feeds, single, holes⟩ => ⟨nodup, feeds, single, holes⟩⟩

theorem rows_ofRows {texts : List String} {spelling : List (List Char)} (h : Spelled texts spelling)
    (hfeeds : ∀ row ∈ spelling, '\n' ∉ row) : rows (ofRows texts).toList = spelling ++ [[]] := by
  induction h with
  | nil => rfl
  | @cons row texts spelling _ ih =>
    have hrow : (ofRows (String.ofList row :: texts)).toList = row ++ '\n' :: (ofRows texts).toList := by
      simp [ofRows]
    rw [hrow, rows_append_feed (hfeeds row (by simp)), ih fun other hother => hfeeds other (by simp [hother])]
    rfl

theorem isSingle_nil (names : List (List Char)) : IsSingle names [] := by
  constructor
  · rfl
  · intro p hp
    cases hp

/-- Filling puts each value in the place of its placeholder and changes nothing else. -/
theorem filled_fill {texts : List String} {values : List (String × String)} {spelling names : List (List Char)}
    (htexts : Spelled texts spelling) (hnames : Spelled (values.map (·.1)) names) (h : Holed names spelling)
    (hvalues : ∀ v ∈ values, '\n' ∉ v.2.toList) :
    Filled (ofRows texts) values (fill (ofRows texts) values) := by
  have hkeys : values.map (·.1.toList) = names := by
    rw [← hnames.map_toList, List.map_map]
    rfl
  let pairs := values.map fun v => (v.1.toList, v.2.toList)
  have hpairs : ∀ p ∈ pairs, '\n' ∉ p.2 := by
    intro p hp
    obtain ⟨v, hv, rfl⟩ := List.mem_map.1 hp
    exact hvalues v hv
  have hrows : rows (ofRows texts).toList = spelling ++ [[]] := rows_ofRows htexts h.feeds
  have hscript : rows (fill (ofRows texts) values).toList = (rows (ofRows texts).toList).map (fillChars pairs) := by
    rw [fill, String.toList_ofList, rows_fillChars hpairs]
  have hsingle : ∀ {i : Nat} {row : List Char}, (rows (ofRows texts).toList)[i]? = some row → IsSingle names row := by
    intro i row hrow
    have hmem := List.mem_of_getElem? hrow
    rw [hrows, List.mem_append, List.mem_singleton] at hmem
    rcases hmem with hmem | rfl
    · exact h.single row hmem
    · exact isSingle_nil names
  have hname : ∀ v ∈ values, v.1.toList ∈ names := by
    intro v hv
    rw [← hkeys]
    exact List.mem_map_of_mem hv
  have hlookup : ∀ v ∈ values, pairs.lookup v.1.toList = some v.2.toList := by
    intro v hv
    obtain ⟨before, behind, hsplit⟩ := List.append_of_mem hv
    have hfresh : ∀ p ∈ before.map fun v => (v.1.toList, v.2.toList), (v.1.toList != p.1) = true := by
      intro p hp
      obtain ⟨w, hw, rfl⟩ := List.mem_map.1 hp
      have hnodup := h.nodup
      rw [← hkeys, hsplit, List.map_append, List.map_cons] at hnodup
      have hne := (List.nodup_append.1 hnodup).2.2 w.1.toList (List.mem_map_of_mem hw) v.1.toList (by simp)
      exact bne_iff_ne.2 hne.symm
    refine List.lookup_eq_some_iff.2 ⟨before.map fun v => (v.1.toList, v.2.toList),
      behind.map fun v => (v.1.toList, v.2.toList), ?_, hfresh⟩
    simp [pairs, hsplit]
  constructor
  case length_eq => rw [hscript, List.length_map]
  case untouched =>
    intro i row hrow hfree
    have hfree : ∀ name ∈ names, ¬hole name <:+: row := by
      intro name hn
      rw [← hkeys] at hn
      obtain ⟨v, hv, rfl⟩ := List.mem_map.1 hn
      exact hfree v hv
    rw [hscript, List.getElem?_map, hrow, Option.map_some, (hsingle hrow).fillChars_of_free hfree]
  case filled =>
    intro i before behind v hv hrow
    rw [hscript, List.getElem?_map, hrow, Option.map_some, (hsingle hrow).fillChars_of_hole (hname v hv) rfl,
      hlookup v hv]
    rfl
  case one =>
    intro i before behind before' behind' v hv v' hv' hrow hrow'
    have hfirst := (hsingle hrow).firstHole?_eq_some_iff.2 ⟨hname v hv, rfl⟩
    rw [hrow] at hrow'
    injection hrow' with hrow'
    have hfirst' := (hsingle hrow).firstHole?_eq_some_iff.2 ⟨hname v' hv', hrow'⟩
    rw [hfirst] at hfirst'
    simp only [Option.some.injEq, Prod.mk.injEq] at hfirst'
    exact ⟨hfirst'.1, String.toList_inj.1 hfirst'.2.1, hfirst'.2.2⟩
  case placed =>
    intro v hv
    have hmem := hname v hv
    rw [← h.holes] at hmem
    obtain ⟨⟨before, name, behind⟩, hp, hn⟩ := List.mem_map.1 hmem
    obtain ⟨row, hrow, hfirst⟩ := List.mem_filterMap.1 hp
    obtain ⟨_, hsplit⟩ := (h.single row hrow).firstHole?_eq_some_iff.1 hfirst
    obtain ⟨i, hi⟩ := List.getElem?_of_mem hrow
    obtain ⟨hlt, _⟩ := List.getElem?_eq_some_iff.1 hi
    refine ⟨i, before, behind, ?_⟩
    rw [hrows, List.getElem?_append_left hlt, hi, hsplit, ← hn]

end ScriptBench.Script
