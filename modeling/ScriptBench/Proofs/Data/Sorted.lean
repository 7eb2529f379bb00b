import ScriptBench.Data.Sorted

/-! Looking up in dictionaries: what was put in last under a name counts, and other names are left alone. -/
namespace ScriptBench

variable {α : Type} {key other : String} {value : α}

theorem lookup_insertSorted_self (entries : List (String × α)) :
    (insertSorted key value entries).lookup key = some value := by
  induction entries with
  | nil => rw [insertSorted, List.lookup_cons, beq_self_eq_true]
  | cons e more ih =>
    unfold insertSorted
    split
    · rw [List.lookup_cons, beq_self_eq_true]
    · split
      · rename_i hlt
        have hne : key ≠ e.1 := fun h => String.lt_irrefl key (h ▸ hlt)
        rw [List.lookup_cons, beq_eq_false_iff_ne.2 hne]
        exact ih
      · rw [List.lookup_cons, beq_self_eq_true]

theorem lookup_insertSorted_of_ne (h : other ≠ key) (entries : List (String × α)) :
    (insertSorted key value entries).lookup other = entries.lookup other := by
  have hother : (other == key) = false := beq_eq_false_iff_ne.2 h
  induction entries with
  | nil => rw [insertSorted, List.lookup_cons, hother]
  | cons e more ih =>
    unfold insertSorted
    split
    · rw [List.lookup_cons, hother]
    · split
      · rw [List.lookup_cons, List.lookup_cons, ih]
      · rename_i hge hle
        have hkey : key = e.1 := String.eq_of_not_lt hge hle
        rw [List.lookup_cons, List.lookup_cons, ← hkey, hother]

/-- An entry with the greatest key goes behind the others. -/
theorem insertSorted_of_lt {entries : List (String × α)} (h : ∀ e ∈ entries, e.1 < key) :
    insertSorted key value entries = entries ++ [(key, value)] := by
  induction entries with
  | nil => rfl
  | cons e more ih =>
    have hlt : e.1 < key := h e (by simp)
    have hge : ¬key < e.1 := fun hlt' => String.lt_irrefl _ (String.lt_trans hlt hlt')
    rw [insertSorted, if_neg hge, if_pos hlt, ih fun other hother => h other (by simp [hother])]
    rfl

namespace Dictionary

@[ext] theorem ext {d d' : Dictionary α} (h : d.entries = d'.entries) : d = d' := by
  cases d
  cases d'
  cases h
  rfl

/-- A dictionary is made from its own entries. -/
theorem ofList_entries (d : Dictionary α) : ofList d.entries = d := by
  have hmore : ∀ (more : List (String × α)) (d' : Dictionary α), (d'.entries ++ more).Pairwise (·.1 < ·.1) →
      (more.foldl (fun d e => d.insert e.1 e.2) d').entries = d'.entries ++ more := by
    intro more
    induction more with
    | nil =>
      intro d' _
      rw [List.append_nil]
      rfl
    | cons e more ih =>
      intro d' hsorted
      have hlt : ∀ e' ∈ d'.entries, e'.1 < e.1 := fun e' he' => (List.pairwise_append.1 hsorted).2.2 e' he' e (by simp)
      have hinsert : (d'.insert e.1 e.2).entries = d'.entries ++ [e] := insertSorted_of_lt hlt
      have hsorted' : ((d'.insert e.1 e.2).entries ++ more).Pairwise (·.1 < ·.1) := by
        rw [hinsert, List.append_assoc]
        exact hsorted
      rw [List.foldl_cons, ih _ hsorted', hinsert, List.append_assoc]
      rfl
  exact ext (hmore d.entries empty d.sorted)

@[simp] theorem get?_insert_self (d : Dictionary α) (name : String) (value : α) :
    (d.insert name value).get? name = some value := lookup_insertSorted_self d.entries

theorem get?_insert_of_ne {name other : String} (h : other ≠ name) (d : Dictionary α) (value : α) :
    (d.insert name value).get? other = d.get? other := lookup_insertSorted_of_ne h d.entries

end Dictionary

/-- A set is made from its own names. -/
theorem Names.ofList_names (names : Names) : Names.ofList (Dictionary.names names) = names := by
  have hentries : (Dictionary.names names).map (·, ()) = names.entries := by
    rw [Dictionary.names, List.map_map]
    exact List.map_id' names.entries
  rw [Names.ofList, hentries, Dictionary.ofList_entries]

end ScriptBench
