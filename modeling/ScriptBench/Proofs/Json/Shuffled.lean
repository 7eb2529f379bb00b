import ScriptBench.Proofs.Json.Printed
import ScriptBench.Proofs.Json.Written

/-! Members of an object in any order, with others among them. -/
namespace ScriptBench.Json

/-- A member that its object does not know. Its name and its value are accepted on their own. -/
def MemberText.Unknown (known : String → Prop) (m : MemberText) : Prop :=
  ∃ name v, m.name? = some name ∧ ¬known name ∧ Value.parse (.ofList m.text) = .ok v ∧ v.height ≤ 100

/-- The same members in any order, and unknown ones anywhere among them. -/
def Shuffled (known : String → Prop) (members members' : List MemberText) : Prop :=
  ∃ extra, members'.Perm (members ++ extra) ∧ ∀ m ∈ extra, m.Unknown known

/-- A name stands twice among members. -/
def Twice (name : String) (members : List MemberText) : Prop :=
  [some name, some name].Sublist (members.map MemberText.name?)

section

variable {α β : Type} {f : α → Option β} {as : List α} {bs : List β}

theorem mapM_eq_ite (f : α → Option β) (as : List α) :
    as.mapM f = if as.all fun a => (f a).isSome then some (as.filterMap f) else none := by
  induction as with
  | nil => rfl
  | cons a as ih =>
    rw [List.mapM_cons, List.all_cons, ih]
    cases hf : f a with
    | none => rfl
    | some b =>
      rw [List.filterMap_cons_some hf, Option.isSome_some, Bool.true_and]
      cases as.all fun a => (f a).isSome <;> rfl

theorem exists_of_mem_mapM (h : as.mapM f = some bs) {b : β} (hb : b ∈ bs) : ∃ a ∈ as, f a = some b := by
  rw [mapM_eq_ite] at h
  split at h
  · cases h
    obtain ⟨a, ha, hf⟩ := List.mem_filterMap.1 hb
    exact ⟨a, ha, hf⟩
  · cases h

theorem exists_mem_of_mapM (h : as.mapM f = some bs) {a : α} (ha : a ∈ as) : ∃ b ∈ bs, f a = some b := by
  rw [mapM_eq_ite] at h
  split at h
  · rename_i hall
    cases h
    obtain ⟨b, hb⟩ := Option.isSome_iff_exists.1 (List.all_eq_true.1 hall a ha)
    exact ⟨b, List.mem_filterMap.2 ⟨a, ha, hb⟩, hb⟩
  · cases h

end

namespace MemberText

theorem read?_eq_some_iff {m : MemberText} {depth : Nat} {name : String} {v : Value} :
    m.read? depth = some (name, v) ↔ m.name? = some name ∧ alone (readValue depth) m.text = some v := by
  rw [MemberText.read?]
  cases m.name? with
  | none => simp
  | some name' =>
    cases alone (readValue depth) m.text with
    | none => simp
    | some v' => simp [pure]

theorem Unknown.exists_read? {known : String → Prop} {m : MemberText} (h : m.Unknown known)
    (hwritten : Written m.text) {depth : Nat} (hdepth : 100 < depth) :
    ∃ name v, m.read? depth = some (name, v) ∧ ¬known name := by
  obtain ⟨name, v, hname, hknown, hparse, hheight⟩ := h
  have hv := alone_of_height hwritten (alone_of_parse hparse) (Nat.lt_of_le_of_lt hheight hdepth)
  refine ⟨name, v, ?_, hknown⟩
  rw [read?, hname, hv]
  rfl

theorem names_of_mapM {ms : List MemberText} {depth : Nat} {vs : List (String × Value)}
    (h : ms.mapM (read? depth) = some vs) : ms.map name? = (vs.map Prod.fst).map some := by
  induction ms generalizing vs with
  | nil =>
    cases h
    rfl
  | cons m ms ih =>
    rw [List.mapM_cons] at h
    obtain ⟨v, hv, h⟩ := Option.bind_eq_some_iff.1 h
    obtain ⟨us, hus, h⟩ := Option.bind_eq_some_iff.1 h
    cases h
    rw [List.map_cons, List.map_cons, List.map_cons, (read?_eq_some_iff.1 hv).1, ih hus]

/-! Printed members -/

/-- A member as it is printed. -/
def ofMember (m : String × Value) : MemberText := ⟨m.1.toList.flatMap escape, m.2.compact⟩

variable {m : String × Value}

theorem name?_ofMember (m : String × Value) : (ofMember m).name? = some m.1 := by
  have hread := readString_of_spellsChars (spellsChars_escape m.1.toList) []
  rw [name?, alone, ofMember, hread]
  rfl

theorem laid_ofMember (m : String × Value) : (ofMember m).Laid (quote m.1.toList ++ ':' :: m.2.compact) := by
  have hlaid := Laid.intro (m := ofMember m) blanks_nil blanks_nil
  rw [quote, List.cons_append, List.cons_append, List.append_assoc, List.singleton_append]
  exact hlaid

theorem unknown_ofMember {known : String → Prop} (h : m.2.Printed) (hheight : m.2.height ≤ 100) (hm : ¬known m.1) :
    (ofMember m).Unknown known := by
  refine ⟨m.1, m.2, name?_ofMember m, hm, parse_of_spells (Nat.lt_of_le_of_lt hheight (by decide)) ?_, hheight⟩
  rw [String.toList_ofList]
  exact h.spells

end MemberText

open MemberText

/-- A printed object is one with its members. -/
theorem objectText_compact {members : List (String × Value)} (h : ∀ m ∈ members, m.2.Printed) :
    ObjectText (members.map ofMember) (Value.object members).compact := by
  have hparts : List.Forall₂ Laid (members.map ofMember) (compactMembers members) := by
    induction members with
    | nil => exact .nil
    | cons m members ih => exact .cons (laid_ofMember m) (ih fun u hu => h u (by simp [hu]))
  have hlisted := listed_separate blanks_nil blanks_nil (compactMembers members)
  rw [List.nil_append, List.append_nil] at hlisted
  refine .intro blanks_nil blanks_nil ?_ ?_ hparts hlisted
  · intro m hm
    obtain ⟨m, -, rfl⟩ := List.mem_map.1 hm
    exact quoted_of_spellsChars (spellsChars_escape _)
  · intro m hm
    obtain ⟨u, hu, rfl⟩ := List.mem_map.1 hm
    exact written_of_spells (h u hu).spells

/-- Members in reverse, and an unknown one in front of them. -/
theorem shuffled_reverse {known : String → Prop} {members : List (String × Value)} {m : String × Value}
    (h : m.2.Printed) (hheight : m.2.height ≤ 100) (hm : ¬known m.1) :
    Shuffled known (members.map ofMember) ((m :: members.reverse).map ofMember) := by
  refine ⟨[ofMember m], ?_, List.forall_mem_singleton.2 (unknown_ofMember h hheight hm)⟩
  have hperm : (m :: members.reverse).Perm (members ++ [m]) := by
    rw [← List.reverse_concat]
    exact List.reverse_perm _
  have hmap := hperm.map ofMember
  rwa [List.map_append] at hmap

end ScriptBench.Json
