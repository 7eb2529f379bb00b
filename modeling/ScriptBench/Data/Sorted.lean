/-! Collections sorted by text: dictionaries and sets of names. -/
namespace ScriptBench

/-- Puts an entry into a list that is sorted by key. An entry with the same key is replaced. -/
def insertSorted (key : String) (value : α) : List (String × α) → List (String × α)
  | [] => [(key, value)]
  | e :: more =>
    if key < e.1 then (key, value) :: e :: more
    else if e.1 < key then e :: insertSorted key value more
    else (key, value) :: more

theorem mem_insertSorted {key : String} {value : α} {entries : List (String × α)} {e : String × α}
    (h : e ∈ insertSorted key value entries) : e = (key, value) ∨ e ∈ entries := by
  induction entries with
  | nil => simpa [insertSorted] using h
  | cons a more ih =>
    unfold insertSorted at h
    split at h
    · simpa using h
    · split at h
      · rcases List.mem_cons.1 h with h | h
        · simp [h]
        · rcases ih h with h | h <;> simp [h]
      · rcases List.mem_cons.1 h with h | h <;> simp [h]

theorem String.eq_of_not_lt {a b : String} (h : ¬a < b) (h' : ¬b < a) : a = b :=
  String.le_antisymm (String.not_lt.1 h') (String.not_lt.1 h)

theorem pairwise_insertSorted {key : String} {value : α} {entries : List (String × α)}
    (h : entries.Pairwise (·.1 < ·.1)) : (insertSorted key value entries).Pairwise (·.1 < ·.1) := by
  induction entries with
  | nil => simp [insertSorted]
  | cons a more ih =>
    obtain ⟨first, later⟩ := List.pairwise_cons.1 h
    unfold insertSorted
    split
    · rename_i hlt
      refine List.pairwise_cons.2 ⟨fun b hb => ?_, h⟩
      rcases List.mem_cons.1 hb with rfl | hb
      · exact hlt
      · exact String.lt_trans hlt (first b hb)
    · rename_i hge
      split
      · rename_i hgt
        refine List.pairwise_cons.2 ⟨fun b hb => ?_, ih later⟩
        rcases mem_insertSorted hb with rfl | hb
        · exact hgt
        · exact first b hb
      · rename_i hle
        refine List.pairwise_cons.2 ⟨fun b hb => ?_, later⟩
        have := String.eq_of_not_lt hge hle
        exact this ▸ first b hb

structure Dictionary (α : Type) where
  entries : List (String × α)
  sorted : entries.Pairwise (·.1 < ·.1)
  deriving DecidableEq, Repr

namespace Dictionary

def empty : Dictionary α := ⟨[], .nil⟩

/-- Gives a name a value in place of the one it may have. -/
def insert (d : Dictionary α) (name : String) (value : α) : Dictionary α :=
  ⟨insertSorted name value d.entries, pairwise_insertSorted d.sorted⟩

def get? (d : Dictionary α) (name : String) : Option α := d.entries.lookup name

def names (d : Dictionary α) : List String := d.entries.map (·.1)

def ofList (entries : List (String × α)) : Dictionary α :=
  entries.foldl (fun d e => d.insert e.1 e.2) empty

end Dictionary

abbrev Names := Dictionary Unit

namespace Names

def ofList (names : List String) : Names := Dictionary.ofList (names.map (·, ()))

def contains (s : Names) (name : String) : Bool := (s.get? name).isSome

end Names

end ScriptBench
