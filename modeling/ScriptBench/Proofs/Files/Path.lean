import ScriptBench.Files.Path
import ScriptBench.Proofs.Text.Lines

/-! Paths to something in a directory. A name behind the path of a directory leads to the place of that name in the
directory to which the path leads. -/
namespace ScriptBench

/-- The characters that stand in names of files. -/
def isNameChar (c : Char) : Bool := c.isAlphanum || c == '-' || c == '_' || c == '.'

namespace Path

open Text

/-- The location to which a path leads, whatever stands there. -/
def home (p : Path) : Location := p.parts.foldl follow p.origin

/-- A location lies on the way that the parts of a path lead from a location. -/
def OnWay (here : Location) (parts : List String) (q : Location) : Prop := ∃ n, q = (parts.take n).foldl follow here

theorem OnWay.first (here : Location) (part : String) (parts : List String) :
    OnWay here (part :: parts) (follow here part) := ⟨1, rfl⟩

theorem OnWay.cons {here q : Location} {part : String} {parts : List String} (h : OnWay (follow here part) parts q) :
    OnWay here (part :: parts) q := by
  obtain ⟨n, hq⟩ := h
  exact ⟨n + 1, hq⟩

/-- A way that never goes up passes only what its end lies in. -/
theorem OnWay.prefix_of_no_up {here q : Location} {parts : List String} (h : OnWay here parts q)
    (hup : ".." ∉ parts) : q <+: parts.foldl follow here := by
  have hdown : ∀ (here : Location) (parts : List String), ".." ∉ parts → here <+: parts.foldl follow here := by
    intro here parts hup
    induction parts generalizing here with
    | nil => exact List.prefix_rfl
    | cons part parts ih =>
      rw [List.mem_cons, not_or] at hup
      have hstep : here <+: follow here part := by
        unfold follow
        split
        · exact List.prefix_rfl
        · rw [if_neg fun hpart => hup.1 hpart.symm]
          exact List.prefix_append here [part]
      exact hstep.trans (ih (follow here part) hup.2)
  obtain ⟨n, rfl⟩ := h
  have hrest := hdown ((parts.take n).foldl follow here) (parts.drop n) fun hmem => hup (List.mem_of_mem_drop hmem)
  rwa [← List.foldl_append, List.take_append_drop] at hrest

/-- A way that never goes up does not pass what its end holds. -/
theorem not_onWay_below {p : Path} (hup : ".." ∉ p.parts) {names : List String} (hne : names ≠ []) :
    ¬OnWay p.origin p.parts (p.home ++ names) := by
  intro hway
  have hle := (hway.prefix_of_no_up hup).length_le
  change (p.home ++ names).length ≤ p.home.length at hle
  rw [List.length_append] at hle
  exact hne (List.length_eq_zero_iff.1 (by omega))

/-- A name that neither leads elsewhere nor is cut. -/
structure IsPlain (name : String) : Prop where
  slash : '/' ∉ name.toList
  blank : isBlank name = false
  up : name ≠ ".."

/-- Names of three characters or more lead nowhere else. -/
theorem isPlain_of_isNameChar {name : String} (hchars : ∀ c ∈ name.toList, isNameChar c = true)
    (hlength : 3 ≤ name.toList.length) : IsPlain name := by
  have hne : ∀ other : String, other.toList.length < 3 → name ≠ other := by
    rintro other hother rfl
    omega
  refine ⟨fun hslash => absurd (hchars _ hslash) (by decide), ?_, hne ".." (by decide)⟩
  simp only [isBlank, Bool.or_eq_false_iff, beq_eq_false_iff_ne]
  exact ⟨hne "" (by decide), hne "." (by decide)⟩

/-- A character takes four bytes at most. -/
theorem fits_of_length {name : String} (h : 4 * name.toList.length ≤ 255) : fits name = true := by
  have hsize : ∀ chars : List Char, (String.ofList chars).utf8ByteSize ≤ 4 * chars.length := by
    intro chars
    induction chars with
    | nil => exact Nat.le_refl 0
    | cons c chars ih =>
      have hfour := c.utf8Size_le_four
      rw [String.ofList_cons, String.utf8ByteSize_append, String.utf8ByteSize_singleton, List.length_cons]
      omega
  have hname := hsize name.toList
  rw [String.ofList_toList] at hname
  exact decide_eq_true (Nat.le_trans hname h)

theorem follow_of_plain {name : String} (h : IsPlain name) (here : Location) : follow here name = here ++ [name] := by
  rw [follow, h.blank, if_neg Bool.false_ne_true, if_neg h.up]

variable (p : Path)

theorem origin_join {name : String} (h : IsPlain name) : (p.join name).origin = p.origin := by
  obtain ⟨start, text⟩ := p
  unfold origin join joinPath
  cases htext : text.toList with
  | nil =>
    have hhead : name.toList.head? ≠ some '/' := by
      intro hhead
      exact h.slash (List.mem_of_mem_head? hhead)
    simp [htext, hhead]
  | cons c more =>
    simp only
    split
    · simp [htext]
    · simp [htext]
    · simp [htext]

/-- The parts in front of a joined name lead to where the path leads. -/
theorem exists_parts_join {name : String} (h : IsPlain name) :
    ∃ lead, (p.join name).parts = lead ++ [name] ∧ lead.foldl follow (p.join name).origin = p.home := by
  rw [origin_join p h]
  unfold home
  obtain ⟨start, text⟩ := p
  unfold parts join joinPath
  simp only
  generalize origin ⟨start, text⟩ = here
  have hlast : ∀ lead, (lead ++ [""]).foldl follow here = lead.foldl follow here := by
    intro lead
    rw [List.foldl_append]
    rfl
  split
  case h_1 hnil =>
    have htext : text.toList = [] := List.getLast?_eq_none_iff.1 hnil
    refine ⟨[], ?_, ?_⟩
    · rw [String.toList_append, htext, List.nil_append, cut_of_not_mem h.slash]
      simp
    · rw [htext]
      rfl
  case h_2 hslash =>
    obtain ⟨front, hfront⟩ := List.getLast?_eq_some_iff.1 hslash
    refine ⟨(cut '/' front).map String.ofList, ?_, ?_⟩
    · rw [String.toList_append, hfront, List.append_assoc, List.singleton_append, cut_append,
        cut_of_not_mem h.slash]
      simp
    · rw [hfront, cut_append, List.map_append]
      exact (hlast _).symm
  case h_3 =>
    refine ⟨(cut '/' text.toList).map String.ofList, ?_, rfl⟩
    have hslash : "/".toList = ['/'] := rfl
    rw [String.toList_append, String.toList_append, hslash, List.append_assoc, List.singleton_append, cut_append,
      cut_of_not_mem h.slash]
    simp

/-- The parts in front of a joined name are parts of the path, or blank. -/
theorem mem_parts_join {p : Path} {name part : String} (hname : Path.IsPlain name)
    (h : part ∈ (p.join name).parts.dropLast) : part ∈ p.parts := by
  have hcut : cut '/' name.toList = [name.toList] := cut_of_not_mem hname.slash
  obtain ⟨start, text⟩ := p
  unfold parts join joinPath at h
  unfold parts
  dsimp only at h ⊢
  split at h
  · rename_i hnil
    have htext : text.toList = [] := List.getLast?_eq_none_iff.1 hnil
    rw [String.toList_append, htext, List.nil_append, hcut] at h
    cases h
  · rename_i hslash
    obtain ⟨front, hfront⟩ := List.getLast?_eq_some_iff.1 hslash
    rw [String.toList_append, hfront, List.append_assoc, List.singleton_append, cut_append, hcut, List.map_append,
      List.map_singleton, List.dropLast_concat] at h
    rw [hfront, cut_append, List.map_append]
    exact List.mem_append_left _ h
  · have hslash : "/".toList = ['/'] := rfl
    rw [String.toList_append, String.toList_append, hslash, List.append_assoc, List.singleton_append, cut_append,
      hcut, List.map_append, List.map_singleton, List.dropLast_concat] at h
    exact h

end Path

end ScriptBench
