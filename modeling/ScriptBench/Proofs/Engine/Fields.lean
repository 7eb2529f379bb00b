import Mathlib.Data.List.Forall2
import ScriptBench.Engine.Message

/-! The fields of messages. A message is told by what stands under the names that its kind knows. -/
namespace ScriptBench

open Json

/-- The members of an error that is reported in a result. -/
def RaisedError.fieldNames : List String := ["kind", "message", "traceback"]

namespace Message

/-! One member with a name -/

section

variable {members members' : List (String × Value)} {name : String}

theorem once?_perm (h : members.Perm members') (name : String) : once? members name = once? members' name := by
  have hfilter := h.filter (·.1 == name)
  unfold once?
  generalize members.filter (·.1 == name) = found at hfilter
  generalize members'.filter (·.1 == name) = found' at hfilter
  rcases found with - | ⟨m, - | ⟨m', found⟩⟩
  · rw [hfilter.nil_eq]
  · rw [List.singleton_perm.1 hfilter]
  · have hlength := hfilter.length_eq
    rcases found' with - | ⟨u, - | ⟨u', found'⟩⟩
    · cases hlength
    · cases hlength
    · rfl

theorem once?_append_of_unknown {extra : List (String × Value)} (h : ∀ m ∈ extra, m.1 ≠ name) :
    once? (members ++ extra) name = once? members name := by
  have hnil : extra.filter (·.1 == name) = [] := by
    rw [List.filter_eq_nil_iff]
    intro m hm
    simpa using h m hm
  rw [once?, once?, List.filter_append, hnil, List.append_nil]

theorem once?_of_twice (h : [name, name].Sublist (members.map Prod.fst)) : once? members name = none := by
  have hcount : 2 ≤ (members.filter (·.1 == name)).length := by
    have hle := h.count_le name
    rw [List.count_eq_countP, List.count_eq_countP, List.countP_map] at hle
    rw [← List.countP_eq_length_filter]
    simpa [Function.comp_def] using hle
  unfold once?
  split
  · rename_i heq
    rw [heq] at hcount
    cases hcount
  · rename_i heq
    rw [heq] at hcount
    simp at hcount
  · rfl

theorem once?_of_mem {m : String × Value} (hm : m ∈ members) {v? : Option Value}
    (h : once? members m.1 = some v?) : v? = some m.2 := by
  have hfound : m ∈ members.filter (·.1 == m.1) := List.mem_filter.2 ⟨hm, beq_self_eq_true _⟩
  unfold once? at h
  split at h
  · rename_i heq
    rw [heq] at hfound
    cases hfound
  · rename_i heq
    rw [heq] at hfound
    cases List.mem_singleton.1 hfound
    cases h
    rfl
  · cases h

theorem mem_of_once? {members : List (String × Value)} {name : String} {v : Value}
    (h : once? members name = some (some v)) : (name, v) ∈ members := by
  unfold once? at h
  split at h
  · cases h
  · rename_i m hm
    cases h
    have hmem : m ∈ members.filter (·.1 == name) := by rw [hm]; simp
    obtain ⟨hmem, hname⟩ := List.mem_filter.1 hmem
    rwa [← beq_iff_eq.1 hname]
  · cases h

theorem once?_filter (h : name ≠ "type") : once? (members.filter (·.1 != "type")) name = once? members name := by
  have hkeep : ∀ m ∈ members, ((m.1 == name) && (m.1 != "type")) = (m.1 == name) := by
    intro m _
    by_cases hm : m.1 = name
    · simp [hm, h]
    · simp [hm]
  rw [once?, once?, List.filter_filter, List.filter_congr hkeep]

end

/-! Fields that are read as the same -/

/-- The values of a member with some name are read as the same. -/
def SameValue (name : String) (v v' : Value) : Prop :=
  v = v' ∨ name = "error" ∧ nullable? raisedError? v = nullable? raisedError? v'

/-- What stands under a name is read as the same. -/
def Agree (name : String) (members members' : List (String × Value)) : Prop :=
  Option.Rel (Option.Rel (SameValue name)) (once? members name) (once? members' name)

/-- Members with the same names whose values are read as the same. -/
def SameFields : List (String × Value) → List (String × Value) → Prop :=
  List.Forall₂ fun m m' => m.1 = m'.1 ∧ SameValue m.1 m.2 m'.2

section

variable {members members' : List (String × Value)} {name : String} {α : Type} {read : Value → Option α}

theorem agree_of_sameFields {members members' : List (String × Value)} (h : SameFields members members')
    (name : String) : Agree name members members' := by
  have hfilter : SameFields (members.filter (·.1 == name)) (members'.filter (·.1 == name)) := by
    induction h with
    | nil => exact .nil
    | @cons m m' members members' h _ ih =>
      rw [List.filter_cons, List.filter_cons, h.1]
      split
      · exact .cons h ih
      · exact ih
  have hname : ∀ m ∈ members.filter (·.1 == name), m.1 = name := by
    intro m hm
    simpa using (List.mem_filter.1 hm).2
  rw [Agree, once?, once?]
  generalize members.filter (·.1 == name) = found at hfilter hname
  generalize members'.filter (·.1 == name) = found' at hfilter
  cases hfilter with
  | nil => exact .some .none
  | @cons m m' _ _ h hmore =>
    cases hmore with
    | nil => exact .some (.some (hname m (by simp) ▸ h.2))
    | cons => exact .none

theorem required?_congr (h : Agree name members members') (hread : ∀ {v v'}, SameValue name v v' → read v = read v') :
    required? members name read = required? members' name read := by
  rw [Agree] at h
  rw [required?, required?]
  generalize once? members name = v? at h
  generalize once? members' name = v?' at h
  cases h with
  | none => rfl
  | some h =>
    cases h with
    | none => rfl
    | some h => exact hread h

theorem optional?_congr (h : Agree name members members') (fallback : α)
    (hread : ∀ {v v'}, SameValue name v v' → read v = read v') :
    optional? members name fallback read = optional? members' name fallback read := by
  rw [Agree] at h
  rw [optional?, optional?]
  generalize once? members name = v? at h
  generalize once? members' name = v?' at h
  cases h with
  | none => rfl
  | some h =>
    cases h with
    | none => rfl
    | some h => exact hread h

/-- Only the value of an error may be another one. -/
theorem SameValue.congr (hname : name ≠ "error") {v v' : Value} (h : SameValue name v v') : read v = read v' := by
  rcases h with rfl | ⟨heq, -⟩
  · rfl
  · exact (hname heq).elim

theorem SameValue.congr_error {v v' : Value} (h : SameValue "error" v v') :
    nullable? raisedError? v = nullable? raisedError? v' := by
  rcases h with rfl | ⟨-, h⟩
  · rfl
  · exact h

/-- A message is told by what stands under the names of its fields. -/
theorem ofMembers?_congr {kind : String} (h : ∀ name ∈ fieldNames kind, Agree name members members') :
    ofMembers? kind members = ofMembers? kind members' := by
  unfold ofMembers?
  unfold fieldNames at h
  split at h
  · have hversion := h "version" (by simp)
    have hpid := h "pid" (by simp)
    simp only [readyOf?, required?_congr hversion (SameValue.congr (by decide)),
      required?_congr hpid (SameValue.congr (by decide))]
  · have hid := h "id" (by simp)
    have hok := h "ok" (by simp)
    have hstdout := h "stdout" (by simp)
    have hstderr := h "stderr" (by simp)
    have hvalue := h "value" (by simp)
    have herror := h "error" (by simp)
    simp only [resultOf?, optional?_congr hid _ (SameValue.congr (by decide)),
      required?_congr hok (SameValue.congr (by decide)), optional?_congr hstdout _ (SameValue.congr (by decide)),
      optional?_congr hstderr _ (SameValue.congr (by decide)), optional?_congr hvalue _ (SameValue.congr (by decide)),
      optional?_congr herror _ SameValue.congr_error]
  · have hmessage := h "message" (by simp)
    simp only [invalidOf?, required?_congr hmessage (SameValue.congr (by decide))]
  · rfl

theorem raisedError?_congr (h : ∀ name ∈ RaisedError.fieldNames, once? members name = once? members' name) :
    raisedError? (.object members) = raisedError? (.object members') := by
  rw [raisedError?, raisedError?, required?, required?, optional?, optional?, optional?, optional?,
    h "kind" (by decide), h "message" (by decide), h "traceback" (by decide)]

theorem type_not_mem_fieldNames (kind : String) : "type" ∉ fieldNames kind := by
  unfold fieldNames
  split <;> decide

/-- A message is told by its tag and by what stands under the names of its fields. -/
theorem ofValue?_congr (htype : Agree "type" members members')
    (h : ∀ kind, once? members "type" = some (some (.string kind)) → ∀ name ∈ fieldNames kind,
      Agree name members members') : ofValue? (.object members) = ofValue? (.object members') := by
  rw [ofValue?, ofValue?, ← required?_congr htype (SameValue.congr (by decide))]
  cases hkind : required? members "type" text? with
  | none => rfl
  | some kind =>
    refine ofMembers?_congr fun name hname => ?_
    have hne : name ≠ "type" := by
      rintro rfl
      exact type_not_mem_fieldNames kind hname
    rw [Agree, once?_filter hne, once?_filter hne]
    refine h kind ?_ name hname
    obtain ⟨v?, hv, hkind⟩ := Option.bind_eq_some_iff.1 hkind
    obtain ⟨v, rfl, hkind⟩ := Option.bind_eq_some_iff.1 hkind
    rw [hv]
    cases v <;> cases hkind
    rfl

end

/-! Fields that stand twice -/

section

variable {members : List (String × Value)} {name : String} {α : Type}

theorem required?_of_none (h : once? members name = none) (read : Value → Option α) :
    required? members name read = none := by
  rw [required?, h]
  rfl

theorem optional?_of_none (h : once? members name = none) (fallback : α) (read : Value → Option α) :
    optional? members name fallback read = none := by
  rw [optional?, h]
  rfl

/-- No message is read if one of its fields stands twice. -/
theorem ofMembers?_of_none {kind : String} (hname : name ∈ fieldNames kind) (h : once? members name = none) :
    ofMembers? kind members = none := by
  unfold ofMembers?
  unfold fieldNames at hname
  split at hname
  · simp only [List.mem_cons, List.not_mem_nil, or_false] at hname
    rcases hname with rfl | rfl <;> simp [readyOf?, required?_of_none h]
  · simp only [List.mem_cons, List.not_mem_nil, or_false] at hname
    rcases hname with rfl | rfl | rfl | rfl | rfl | rfl <;>
      simp [resultOf?, required?_of_none h, optional?_of_none h]
  · simp only [List.mem_cons, List.not_mem_nil, or_false] at hname
    subst hname
    simp [invalidOf?, required?_of_none h]
  · cases hname

theorem ofMembers?_of_error {members : List (String × Value)} {kind : String} (hkind : "error" ∈ fieldNames kind)
    (h : optional? members "error" none (nullable? raisedError?) = none) : ofMembers? kind members = none := by
  unfold ofMembers?
  unfold fieldNames at hkind
  split at hkind
  · simp at hkind
  · simp [resultOf?, h]
  · simp at hkind
  · cases hkind

theorem raisedError?_of_none (hname : name ∈ RaisedError.fieldNames) (h : once? members name = none) :
    raisedError? (.object members) = none := by
  simp only [RaisedError.fieldNames, List.mem_cons, List.not_mem_nil, or_false] at hname
  rcases hname with rfl | rfl | rfl <;> simp [raisedError?, required?_of_none h, optional?_of_none h]

end

/-- What the tag of a message says is its kind. -/
theorem kind_of_mem {vs : List (String × Value)} {kind : String} (hmem : ("type", Value.string kind) ∈ vs) {m : Message}
    (h : ofValue? (.object vs) = some m) : ofMembers? kind (vs.filter (·.1 != "type")) = some m := by
  rw [ofValue?] at h
  obtain ⟨kind', hkind, h⟩ := Option.bind_eq_some_iff.1 h
  obtain ⟨v?, hv, hkind⟩ := Option.bind_eq_some_iff.1 hkind
  cases once?_of_mem hmem hv
  cases hkind
  exact h

end Message

end ScriptBench
