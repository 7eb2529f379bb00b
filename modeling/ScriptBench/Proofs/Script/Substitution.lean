import ScriptBench.Proofs.Script.Template

/-! Filling is simultaneous substitution. Which placeholders a template has is found by one scan from left to right, of
the longest placeholder at each first place, and no value takes part in it. -/
namespace ScriptBench.Script

/-! Names -/

/-- A name of a placeholder: two or more capital letters and underscores, with letters at both ends. -/
structure IsName (name : List Char) : Prop where
  two_le : 2 ≤ name.length
  chars : ∀ c ∈ name, isCapital c = true ∨ c = '_'
  first : ∀ c ∈ name.head?, isCapital c = true
  last : ∀ c ∈ name.getLast?, isCapital c = true

/-- What stands behind the first letter of a name. -/
structure IsRest (name : List Char) : Prop where
  ne_nil : name ≠ []
  chars : ∀ c ∈ name, isCapital c = true ∨ c = '_'
  last : ∀ c ∈ name.getLast?, isCapital c = true

variable {c : Char} {text name rest before behind : List Char}

theorem isName_cons_iff : IsName (c :: name) ↔ isCapital c = true ∧ IsRest name := by
  constructor
  · intro h
    have hne : name ≠ [] := by
      rintro rfl
      exact absurd h.two_le (by simp)
    refine ⟨h.first c rfl, hne, fun d hd => h.chars d (List.mem_cons_of_mem c hd), fun d hd => h.last d ?_⟩
    rwa [List.getLast?_cons_of_ne_nil hne]
  · rintro ⟨hc, h⟩
    refine ⟨?_, ?_, ?_, fun d hd => h.last d ?_⟩
    · have hpos := List.length_pos_iff.2 h.ne_nil
      rw [List.length_cons]
      omega
    · exact List.forall_mem_cons.2 ⟨Or.inl hc, h.chars⟩
    · rintro d ⟨rfl⟩
      exact hc
    · rwa [List.getLast?_cons_of_ne_nil h.ne_nil] at hd

theorem isRest_singleton_iff : IsRest [c] ↔ isCapital c = true := by
  constructor
  · intro h
    exact h.last c rfl
  · intro h
    refine ⟨by simp, ?_, ?_⟩
    · simp [h]
    · rintro d ⟨rfl⟩
      exact h

theorem isRest_cons_iff (hne : name ≠ []) : IsRest (c :: name) ↔ (isCapital c = true ∨ c = '_') ∧ IsRest name := by
  constructor
  · intro h
    refine ⟨h.chars c (by simp), hne, fun d hd => h.chars d (List.mem_cons_of_mem c hd), fun d hd => h.last d ?_⟩
    rwa [List.getLast?_cons_of_ne_nil hne]
  · rintro ⟨hc, h⟩
    refine ⟨by simp, List.forall_mem_cons.2 ⟨hc, h.chars⟩, fun d hd => h.last d ?_⟩
    rwa [List.getLast?_cons_of_ne_nil hne] at hd

/-! The longest name at the front -/

theorem isRest_of_restOfName? (h : restOfName? text = some (name, rest)) : IsRest name := by
  induction text generalizing name with
  | nil => cases h
  | cons c text ih =>
    unfold restOfName? at h
    split at h
    · rename_i hchar
      split at h
      · rename_i more rest' hmore
        cases h
        have hrest := ih hmore
        exact (isRest_cons_iff hrest.ne_nil).2 ⟨by simpa using hchar, hrest⟩
      · split at h
        · split at h
          · rename_i hcapital
            cases h
            exact isRest_singleton_iff.2 hcapital
          · cases h
        · cases h
    · cases h

/-- Wherever a name could end, one is found that is as long or longer. -/
theorem exists_restOfName? (h : IsRest name) (rest : List Char) :
    ∃ longer behind, restOfName? (name ++ '_' :: '_' :: rest) = some (longer, behind) ∧
      name.length ≤ longer.length := by
  induction name with
  | nil => exact absurd rfl h.ne_nil
  | cons c name ih =>
    have hchar : (isCapital c || c == '_') = true := by simpa using h.chars c (by simp)
    rw [List.cons_append]
    unfold restOfName?
    rw [if_pos hchar]
    by_cases hne : name = []
    · subst hne
      have hcapital := isRest_singleton_iff.1 h
      rw [List.nil_append]
      cases restOfName? ('_' :: '_' :: rest) with
      | some p => exact ⟨c :: p.1, p.2, rfl, by simp⟩
      | none => exact ⟨[c], rest, if_pos hcapital, Nat.le_refl _⟩
    · obtain ⟨longer, behind, hmore, hle⟩ := ih ((isRest_cons_iff hne).1 h).2
      rw [hmore]
      exact ⟨c :: longer, behind, rfl, Nat.succ_le_succ hle⟩

theorem isName_of_placeholder? (h : placeholder? text = some (name, rest)) : IsName name := by
  unfold placeholder? at h
  split at h
  · split at h
    · rename_i hcapital
      obtain ⟨⟨more, rest'⟩, hmore, h⟩ := Option.map_eq_some_iff.1 h
      cases h
      exact isName_cons_iff.2 ⟨hcapital, isRest_of_restOfName? hmore⟩
    · cases h
  · cases h

theorem exists_placeholder? (h : IsName name) (behind : List Char) :
    ∃ longer rest, placeholder? (hole name ++ behind) = some (longer, rest) ∧ name.length ≤ longer.length := by
  cases name with
  | nil => exact absurd h.two_le (by decide)
  | cons c name =>
    obtain ⟨hcapital, hrest⟩ := isName_cons_iff.1 h
    obtain ⟨longer, rest, hmore, hle⟩ := exists_restOfName? hrest behind
    have htext : hole (c :: name) ++ behind = '_' :: '_' :: c :: (name ++ '_' :: '_' :: behind) := by simp [hole]
    rw [htext, placeholder?, if_pos hcapital, hmore]
    exact ⟨c :: longer, rest, rfl, Nat.succ_le_succ hle⟩

/-! The first placeholder of a text -/

/-- A placeholder stands in a text, with something before it and something behind it. -/
structure Occurs (text before name behind : List Char) : Prop where
  isName : IsName name
  eq_append : text = before ++ hole name ++ behind

/-- A placeholder that stands in a text, before which none begins. At its place none is longer. -/
structure Found (text before name behind : List Char) : Prop where
  occurs : Occurs text before name behind
  leftmost : ∀ before' name' behind', Occurs text before' name' behind' → before.length ≤ before'.length
  longest : ∀ name' behind', Occurs text before name' behind' → name'.length ≤ name.length

theorem not_occurs_nil : ¬Occurs [] before name behind := by
  rintro ⟨_, heq⟩
  simp [hole] at heq

theorem occurs_cons_iff : Occurs (c :: text) before name behind ↔
    before = [] ∧ Occurs (c :: text) [] name behind ∨
      ∃ before', before = c :: before' ∧ Occurs text before' name behind := by
  constructor
  · rintro ⟨hname, heq⟩
    cases before with
    | nil => exact Or.inl ⟨rfl, hname, heq⟩
    | cons d before =>
      rw [List.cons_append, List.cons_append, List.cons.injEq] at heq
      exact Or.inr ⟨before, by rw [heq.1], hname, heq.2⟩
  · rintro (⟨rfl, h⟩ | ⟨before', rfl, hname, rfl⟩)
    · exact h
    · exact ⟨hname, rfl⟩

theorem not_occurs_of_placeholder?_eq_none (h : placeholder? text = none) : ¬Occurs text [] name behind := by
  rintro ⟨hname, rfl⟩
  obtain ⟨longer, rest, hfound, _⟩ := exists_placeholder? hname behind
  rw [List.nil_append, hfound] at h
  cases h

theorem found_of_placeholder? (h : placeholder? text = some (name, rest)) : Found text [] name rest := by
  refine ⟨⟨isName_of_placeholder? h, eq_append_of_placeholder? h⟩, fun _ _ _ _ => Nat.zero_le _, ?_⟩
  rintro name' behind' ⟨hname, rfl⟩
  obtain ⟨longer, rest', hfound, hle⟩ := exists_placeholder? hname behind'
  rw [List.nil_append, hfound] at h
  cases h
  exact hle

theorem Found.cons (h : Found text before name behind) (hfront : placeholder? (c :: text) = none) :
    Found (c :: text) (c :: before) name behind := by
  refine ⟨occurs_cons_iff.2 (Or.inr ⟨before, rfl, h.occurs⟩), fun before' name' behind' hoccurs => ?_,
    fun name' behind' hoccurs => ?_⟩
  · rcases occurs_cons_iff.1 hoccurs with ⟨_, hhere⟩ | ⟨before', rfl, hlater⟩
    · exact absurd hhere (not_occurs_of_placeholder?_eq_none hfront)
    · exact Nat.succ_le_succ (h.leftmost before' name' behind' hlater)
  · rcases occurs_cons_iff.1 hoccurs with ⟨hnil, _⟩ | ⟨before', heq, hlater⟩
    · cases hnil
    · cases heq
      exact h.longest name' behind' hlater

/-- The search for the first placeholder finds it if there is one. -/
theorem found_or_none (text : List Char) :
    (∃ before name behind, firstHole? text = some (before, name, behind) ∧ Found text before name behind) ∨
      firstHole? text = none ∧ ∀ before name behind, ¬Occurs text before name behind := by
  induction text with
  | nil => exact Or.inr ⟨rfl, fun _ _ _ => not_occurs_nil⟩
  | cons c text ih =>
    rw [firstHole?]
    cases hfront : placeholder? (c :: text) with
    | some p => exact Or.inl ⟨[], p.1, p.2, rfl, found_of_placeholder? hfront⟩
    | none =>
      rcases ih with ⟨before, name, behind, hfirst, hfound⟩ | ⟨hnone, hfree⟩
      · rw [hfirst]
        exact Or.inl ⟨c :: before, name, behind, rfl, hfound.cons hfront⟩
      · rw [hnone]
        refine Or.inr ⟨rfl, fun before name behind hoccurs => ?_⟩
        rcases occurs_cons_iff.1 hoccurs with ⟨_, hhere⟩ | ⟨before', _, hlater⟩
        · exact not_occurs_of_placeholder?_eq_none hfront hhere
        · exact hfree before' name behind hlater

theorem Found.unique {before' name' behind' : List Char} (h : Found text before name behind)
    (h' : Found text before' name' behind') : before = before' ∧ name = name' ∧ behind = behind' := by
  have hlength := Nat.le_antisymm (h.leftmost _ _ _ h'.occurs) (h'.leftmost _ _ _ h.occurs)
  have heq := h.occurs.eq_append.symm.trans h'.occurs.eq_append
  rw [List.append_assoc, List.append_assoc] at heq
  obtain ⟨rfl, hhole⟩ := List.append_inj heq hlength
  have hlength' := Nat.le_antisymm (h'.longest _ _ h.occurs) (h.longest _ _ h'.occurs)
  obtain ⟨hname, rfl⟩ := List.append_inj hhole (by simp [hole, hlength'])
  exact ⟨rfl, by simpa [hole] using hname, rfl⟩

/-! Scanning a template -/

/-- A scan of a text: its placeholders in their order, each with what stands between it and the one before, and what
stands behind the last one. The scan goes on behind each placeholder. -/
inductive Scanned : List Char → List (List Char × List Char) → List Char → Prop
  | free {text : List Char} (h : ∀ before name behind, ¬Occurs text before name behind) : Scanned text [] text
  | next {text before name behind rest : List Char} {holes : List (List Char × List Char)}
      (h : Found text before name behind) (hmore : Scanned behind holes rest) :
      Scanned text ((before, name) :: holes) rest

variable {holes : List (List Char × List Char)}

theorem Scanned.unique {holes' : List (List Char × List Char)} {rest' : List Char} (h : Scanned text holes rest)
    (h' : Scanned text holes' rest') : holes' = holes ∧ rest' = rest := by
  induction h generalizing holes' rest' with
  | free hfree =>
    cases h' with
    | free => exact ⟨rfl, rfl⟩
    | next hfound => exact absurd hfound.occurs (hfree _ _ _)
  | next hfound _ ih =>
    cases h' with
    | free hfree => exact absurd hfound.occurs (hfree _ _ _)
    | next hfound' hmore' =>
      obtain ⟨rfl, rfl, rfl⟩ := hfound.unique hfound'
      obtain ⟨rfl, rfl⟩ := ih hmore'
      exact ⟨rfl, rfl⟩

/-- Every text has a scan, and filling puts the values in the places of the placeholders that it finds. -/
theorem exists_scanned (text : List Char) : ∃ holes rest, Scanned text holes rest ∧
    ∀ values, fillChars values text =
      holes.flatMap (fun h => h.1 ++ (values.lookup h.2).getD (hole h.2)) ++ rest := by
  induction hn : text.length using Nat.strongRecOn generalizing text with
  | ind n ih =>
    rcases found_or_none text with ⟨before, name, behind, hfirst, hfound⟩ | ⟨hnone, hfree⟩
    · have hlt : behind.length < n := by
        rw [← hn, hfound.occurs.eq_append]
        simp only [hole, List.length_append, List.length_cons]
        omega
      obtain ⟨holes, rest, hscanned, hfill⟩ := ih behind.length hlt behind rfl
      refine ⟨(before, name) :: holes, rest, .next hfound hscanned, fun values => ?_⟩
      rw [fillChars_of_firstHole?_eq_some hfirst, hfill values, List.flatMap_cons, List.append_assoc,
        List.append_assoc, List.append_assoc]
    · exact ⟨[], text, .free hfree, fun values => fillChars_of_firstHole?_eq_none hnone⟩

theorem Scanned.eq_append (h : Scanned text holes rest) :
    text = holes.flatMap (fun h => h.1 ++ hole h.2) ++ rest := by
  induction h with
  | free => rfl
  | next hfound _ ih => rw [List.flatMap_cons, List.append_assoc, ← ih, hfound.occurs.eq_append]

/-! Values -/

/-- Under a name that stands once among pairs the value of its pair is found. -/
theorem lookup_eq_some_iff_mem {values : List (String × String)} (h : (values.map (·.1)).Nodup) {key value : String} :
    values.lookup key = some value ↔ (key, value) ∈ values := by
  induction values with
  | nil => simp
  | cons v values ih =>
    rw [List.map_cons, List.nodup_cons] at h
    rw [List.lookup_cons, List.mem_cons]
    by_cases hkey : key = v.1
    · subst hkey
      have hother : (v.1, value) ∉ values := fun hmem => h.1 (List.mem_map_of_mem hmem (f := (·.1)))
      simp [hother, Prod.ext_iff, eq_comm]
    · rw [beq_eq_false_iff_ne.2 hkey]
      simp [ih h.2, Prod.ext_iff, hkey]

theorem lookup_perm {values values' : List (String × String)} (h : values.Perm values')
    (hkeys : (values.map (·.1)).Nodup) (key : String) : values.lookup key = values'.lookup key := by
  have hkeys' : (values'.map (·.1)).Nodup := (h.map _).nodup_iff.1 hkeys
  refine Option.ext fun value => ?_
  rw [lookup_eq_some_iff_mem hkeys, lookup_eq_some_iff_mem hkeys', h.mem_iff]

theorem lookup_map_toList (values : List (String × String)) (name : List Char) :
    (values.map fun (key, value) => (key.toList, value.toList)).lookup name =
      (values.lookup (String.ofList name)).map String.toList := by
  induction values with
  | nil => rfl
  | cons v values ih =>
    have hkey : (name == v.1.toList) = (String.ofList name == v.1) := by
      rw [Bool.eq_iff_iff, beq_iff_eq, beq_iff_eq, ← String.toList_inj, String.toList_ofList]
    rw [List.map_cons, List.lookup_cons, List.lookup_cons, hkey]
    cases String.ofList name == v.1 with
    | true => rfl
    | false => exact ih

/-- What stands for a placeholder in a filled text: the first value under its name, or else the placeholder. -/
def standIn (values : List (String × String)) (name : List Char) : List Char :=
  ((values.lookup (String.ofList name)).map String.toList).getD (hole name)

/-- A template has one scan, whatever the values are. It is made up of the placeholders of the scan and of what stands
around them, and the filled text of what stands for the placeholders and of the same around them. So values are put in
as they are, and the order of values under different names does not matter. -/
theorem fill_substitutes (template : String) : ∃ holes rest,
    (∀ holes' rest', Scanned template.toList holes' rest' ↔ holes' = holes ∧ rest' = rest) ∧
    template.toList = holes.flatMap (fun h => h.1 ++ hole h.2) ++ rest ∧
    (∀ values, (fill template values).toList = holes.flatMap (fun h => h.1 ++ standIn values h.2) ++ rest) ∧
    ∀ values values', values.Perm values' → (values.map (·.1)).Nodup → fill template values = fill template values' := by
  obtain ⟨holes, rest, hscanned, hfill⟩ := exists_scanned template.toList
  have hfilled : ∀ values, (fill template values).toList =
      holes.flatMap (fun h => h.1 ++ standIn values h.2) ++ rest := by
    intro values
    rw [fill, String.toList_ofList, hfill]
    simp only [lookup_map_toList, standIn]
  refine ⟨holes, rest, fun holes' rest' => ⟨hscanned.unique, ?_⟩, hscanned.eq_append, hfilled,
    fun values values' hperm hkeys => ?_⟩
  · rintro ⟨rfl, rfl⟩
    exact hscanned
  · rw [← String.toList_inj, hfilled, hfilled]
    simp only [standIn, lookup_perm hperm hkeys]

example : fill "__A__ ___AB____ __AB__CD__ __AB__X__" [("AB", "$0"), ("AB__CD", "__AB__"), ("AB", "2")] =
    "__A__ _$0__ __AB__ __AB__X__" := by cbv

end ScriptBench.Script
