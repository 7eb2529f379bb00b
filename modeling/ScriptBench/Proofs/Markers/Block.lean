import ScriptBench.Markers

/-! Blocks by the places of their two lines, and what decoding says about them: the last block that can be
read gives the value, else the last block gives the fault. -/
namespace ScriptBench

open Text

namespace Markers

variable {α : Type}

/-- A start line and the nearest end line behind it, by their indices. -/
structure Block (m : Markers) (rows : List (List Char)) (first last : Nat) : Prop where
  start : ∃ line, rows[first]? = some line ∧ m.isStart line = true
  stop : ∃ line, rows[last]? = some line ∧ m.isStop line = true
  before : first < last
  nearest : ∀ i line, first < i → i < last → rows[i]? = some line → m.isStop line = false

/-- The text between the two lines of a block. -/
def payload (rows : List (List Char)) (first last : Nat) : String :=
  String.ofList (unlines ((rows.take last).drop (first + 1)))

/-- The places of all blocks, by their start lines. -/
def spots (m : Markers) : List (List Char) → List (Nat × Nat)
  | [] => []
  | line :: more =>
    (if m.isStart line then (more.findIdx? m.isStop).toList.map fun i => (0, i + 1) else [])
      ++ (m.spots more).map fun s => (s.1 + 1, s.2 + 1)

/-! Where blocks stand -/

theorem not_block_nil (m : Markers) (first last : Nat) : ¬m.Block [] first last := by
  rintro ⟨⟨line, h, _⟩, _⟩
  simp at h

theorem block_cons_succ {m : Markers} {line : List Char} {rows : List (List Char)} {first last : Nat} :
    m.Block (line :: rows) (first + 1) (last + 1) ↔ m.Block rows first last := by
  constructor
  · rintro ⟨hs, hl, hb, hn⟩
    refine ⟨by simpa using hs, by simpa using hl, by omega, fun i line' hi hj h => ?_⟩
    exact hn (i + 1) line' (by omega) (by omega) (by simpa using h)
  · rintro ⟨hs, hl, hb, hn⟩
    refine ⟨by simpa using hs, by simpa using hl, by omega, fun i line' hi hj h => ?_⟩
    obtain ⟨j, rfl⟩ : ∃ j, i = j + 1 := ⟨i - 1, by omega⟩
    exact hn j line' (by omega) (by omega) (by simpa using h)

theorem block_cons_zero {m : Markers} {line : List Char} {rows : List (List Char)} {last : Nat} :
    m.Block (line :: rows) 0 (last + 1) ↔
      m.isStart line = true ∧ rows.findIdx? m.isStop = some last := by
  rw [List.findIdx?_eq_some_iff_getElem]
  constructor
  · rintro ⟨hs, ⟨stop, hl, hstop⟩, _, hn⟩
    have hs : m.isStart line = true := by simpa using hs
    rw [List.getElem?_cons_succ] at hl
    obtain ⟨h, hget⟩ := List.getElem?_eq_some_iff.1 hl
    refine ⟨hs, h, by rwa [hget], fun j hj => ?_⟩
    have := hn (j + 1) rows[j] (by omega) (by omega) (by simp)
    simp [this]
  · rintro ⟨hs, h, hstop, hn⟩
    refine ⟨⟨line, rfl, hs⟩, ⟨rows[last], by simp, hstop⟩, by omega, fun i line' hi hj hget => ?_⟩
    obtain ⟨j, rfl⟩ : ∃ j, i = j + 1 := ⟨i - 1, by omega⟩
    rw [List.getElem?_cons_succ] at hget
    obtain ⟨hlt, rfl⟩ := List.getElem?_eq_some_iff.1 hget
    simpa using hn j (by omega)

theorem Block.unique {m : Markers} {rows : List (List Char)} {first last last' : Nat}
    (h : m.Block rows first last) (h' : m.Block rows first last') : last = last' := by
  rcases Nat.lt_trichotomy last last' with hlt | rfl | hlt
  · obtain ⟨line, hline, hstop⟩ := h.stop
    have := h'.nearest last line h.before hlt hline
    simp [hstop] at this
  · rfl
  · obtain ⟨line, hline, hstop⟩ := h'.stop
    have := h.nearest last' line h'.before hlt hline
    simp [hstop] at this

theorem mem_spots {m : Markers} {rows : List (List Char)} {first last : Nat} :
    (first, last) ∈ m.spots rows ↔ m.Block rows first last := by
  induction rows generalizing first last with
  | nil => simp [spots, not_block_nil]
  | cons line rows ih =>
    cases last with
    | zero =>
      have : ¬m.Block (line :: rows) first 0 := fun h => by have := h.before; omega
      simp [spots, this]
    | succ last =>
      cases first with
      | zero =>
        rw [block_cons_zero]
        by_cases hs : m.isStart line = true <;> simp [spots, hs]
      | succ first =>
        rw [block_cons_succ, ← ih]
        by_cases hs : m.isStart line = true <;> simp [spots, hs]

theorem spots_pairwise (m : Markers) (rows : List (List Char)) :
    (m.spots rows).Pairwise (fun s t => s.1 < t.1) := by
  induction rows with
  | nil => simp [spots]
  | cons line rows ih =>
    have hmap : ((m.spots rows).map fun s => (s.1 + 1, s.2 + 1)).Pairwise (fun s t => s.1 < t.1) :=
      List.pairwise_map.2 (ih.imp fun h => by simpa using h)
    refine List.pairwise_append.2 ⟨?_, hmap, fun s hs t ht => ?_⟩
    · split
      · cases rows.findIdx? m.isStop <;> simp
      · simp
    · have hs0 : s.1 = 0 := by
        split at hs
        · obtain ⟨i, _, rfl⟩ := List.mem_map.1 hs
          rfl
        · simp at hs
      obtain ⟨u, _, rfl⟩ := List.mem_map.1 ht
      simp only [hs0]
      omega

/-! What stands in blocks -/

theorem body?_eq (m : Markers) (rows : List (List Char)) :
    m.body? rows = (rows.findIdx? m.isStop).map rows.take := by
  induction rows with
  | nil => simp [body?]
  | cons line rows ih =>
    by_cases h : m.isStop line = true
    · simp [body?, List.findIdx?_cons, h]
    · simp [body?, h, ih, List.findIdx?_cons, Function.comp_def]

theorem bodies_eq (m : Markers) (rows : List (List Char)) :
    m.bodies rows = (m.spots rows).map fun s => (rows.take s.2).drop (s.1 + 1) := by
  induction rows with
  | nil => rfl
  | cons line rows ih =>
    simp only [bodies, spots, List.map_append, List.map_map, ih]
    congr 1
    rw [body?_eq]
    split
    · cases rows.findIdx? m.isStop <;> simp
    · rfl

/-! What decoding gives -/

/-- A value is read from a block, and no block that starts later can be read. -/
def LastRead (m : Markers) (read : String → Except Json.ReadError α) (output : String) (a : α) : Prop :=
  ∃ first last, m.Block (lines output.toList) first last ∧
    read (payload (lines output.toList) first last) = .ok a ∧
    ∀ i j, m.Block (lines output.toList) i j → first < i →
      ∃ e, read (payload (lines output.toList) i j) = .error e

/-- There is a block, none can be read, and the one that starts last is refused with a fault. -/
def LastFault (m : Markers) (read : String → Except Json.ReadError α) (output : String)
    (e : Json.ReadError) : Prop :=
  (∀ i j, m.Block (lines output.toList) i j →
    ∃ e, read (payload (lines output.toList) i j) = .error e) ∧
  ∃ first last, m.Block (lines output.toList) first last ∧
    read (payload (lines output.toList) first last) = .error e ∧
    ∀ i j, m.Block (lines output.toList) i j → i ≤ first

/-- In a list sorted by places, the value behind which only faults stand is the last value. -/
private theorem findSome?_reverse_of_last {f : Nat × Nat → Except Json.ReadError α} {places : List (Nat × Nat)}
    (hsorted : places.Pairwise (fun s t => s.1 < t.1)) {s : Nat × Nat} {a : α} (hs : s ∈ places)
    (ha : f s = .ok a) (hlater : ∀ t ∈ places, s.1 < t.1 → ∃ e, f t = .error e) :
    (places.map f).reverse.findSome? Except.toOption = some a := by
  obtain ⟨before, behind, rfl⟩ := List.append_of_mem hs
  have hfaults : ∀ x ∈ (behind.map f).reverse, Except.toOption x = none := by
    intro x hx
    obtain ⟨t, ht, rfl⟩ := List.mem_map.1 (List.mem_reverse.1 hx)
    have hlt : s.1 < t.1 := (List.pairwise_cons.1 (List.pairwise_append.1 hsorted).2.1).1 t ht
    obtain ⟨e, he⟩ := hlater t (by simp [ht]) hlt
    rw [he]
    rfl
  rw [List.map_append, List.map_cons, List.reverse_append, List.reverse_cons, List.append_assoc,
    List.findSome?_append, List.findSome?_eq_none_iff.2 hfaults, ha]
  rfl

private theorem exists_last_value {f : Nat × Nat → Except Json.ReadError α} {places : List (Nat × Nat)}
    (hsorted : places.Pairwise (fun s t => s.1 < t.1)) {a : α}
    (h : (places.map f).reverse.findSome? Except.toOption = some a) :
    ∃ s ∈ places, f s = .ok a ∧ ∀ t ∈ places, s.1 < t.1 → ∃ e, f t = .error e := by
  rw [← List.map_reverse, List.findSome?_map] at h
  obtain ⟨behind, s, before, hsplit, ha, hnone⟩ := List.findSome?_eq_some_iff.1 h
  have hplaces : places = before.reverse ++ s :: behind.reverse := by
    rw [← List.reverse_reverse places, hsplit]
    simp
  rw [hplaces] at hsorted ⊢
  refine ⟨s, by simp, ?_, fun t ht hlt => ?_⟩
  · cases hf : f s with
    | error e => simp [hf, Except.toOption] at ha
    | ok b =>
      have : b = a := by simpa [hf, Except.toOption] using ha
      rw [this]
  · rcases List.mem_append.1 ht with ht | ht
    · have := (List.pairwise_append.1 hsorted).2.2 t ht s (by simp)
      omega
    · rcases List.mem_cons.1 ht with rfl | ht
      · omega
      · have hn := hnone t (List.mem_reverse.1 ht)
        cases hf : f t with
        | error e => exact ⟨e, rfl⟩
        | ok b => simp [hf, Except.toOption] at hn

private theorem exists_getLast? {places : List (Nat × Nat)}
    (hsorted : places.Pairwise (fun s t => s.1 < t.1)) (h : places ≠ []) :
    ∃ s ∈ places, places.getLast? = some s ∧ ∀ t ∈ places, t.1 ≤ s.1 := by
  refine ⟨places.getLast h, List.getLast_mem h, List.getLast?_eq_some_getLast h, fun t ht => ?_⟩
  rw [← List.dropLast_concat_getLast h] at ht hsorted
  rcases List.mem_append.1 ht with ht | ht
  · exact Nat.le_of_lt ((List.pairwise_append.1 hsorted).2.2 t ht _ (by simp))
  · have hlast := List.mem_singleton.1 ht
    subst hlast
    exact Nat.le_refl _

theorem decode_eq_spots (m : Markers) (read : String → Except Json.ReadError α) (output : String) :
    m.decode read output =
      let results := (m.spots (lines output.toList)).map fun s =>
        read (payload (lines output.toList) s.1 s.2)
      match results.reverse.findSome? Except.toOption, results.getLast? with
      | some a, _ => .ok a
      | none, some (.error e) => .error (.invalidJson m.consumer e.message)
      | none, _ => .error (.missingMarkers m.consumer) := by
  simp only [decode, bodies_eq, List.map_map, payload]
  rfl

section

variable {m : Markers} {read : String → Except Json.ReadError α} {output : String}

theorem decode_of_lastRead {a : α} (h : m.LastRead read output a) : m.decode read output = .ok a := by
  obtain ⟨first, last, hb, ha, hlater⟩ := h
  rw [decode_eq_spots]
  dsimp only
  rw [findSome?_reverse_of_last (m.spots_pairwise _) (s := (first, last)) (mem_spots.2 hb) ha
    fun t ht hlt => hlater t.1 t.2 (mem_spots.1 ht) hlt]

theorem decode_of_no_block (h : ∀ first last, ¬m.Block (lines output.toList) first last) :
    m.decode read output = .error (.missingMarkers m.consumer) := by
  have hnil : m.spots (lines output.toList) = [] :=
    List.eq_nil_iff_forall_not_mem.2 fun s hs => h s.1 s.2 (mem_spots.1 hs)
  rw [decode_eq_spots, hnil]
  rfl

theorem decode_of_lastFault {e : Json.ReadError} (h : m.LastFault read output e) :
    m.decode read output = .error (.invalidJson m.consumer e.message) := by
  obtain ⟨hall, first, last, hb, he, hmax⟩ := h
  have hmem : (first, last) ∈ m.spots (lines output.toList) := mem_spots.2 hb
  obtain ⟨s, hs, hlast, hle⟩ := exists_getLast? (m.spots_pairwise _) (List.ne_nil_of_mem hmem)
  have hfirst : s.1 = first := Nat.le_antisymm (hmax s.1 s.2 (mem_spots.1 hs)) (hle _ hmem)
  have hs' : s = (first, last) :=
    Prod.ext hfirst ((hfirst ▸ mem_spots.1 hs : m.Block _ first s.2).unique hb)
  have hnone : ((m.spots (lines output.toList)).map fun s =>
      read (payload (lines output.toList) s.1 s.2)).reverse.findSome? Except.toOption = none := by
    refine List.findSome?_eq_none_iff.2 fun x hx => ?_
    obtain ⟨t, ht, rfl⟩ := List.mem_map.1 (List.mem_reverse.1 hx)
    obtain ⟨f, hf⟩ := hall t.1 t.2 (mem_spots.1 ht)
    rw [hf]
    rfl
  rw [decode_eq_spots]
  dsimp only
  rw [hnone, List.getLast?_map, hlast, hs', Option.map_some, he]

/-- There is a last value, or a last fault, or no block. -/
theorem lastRead_or_lastFault_or_no_block (m : Markers) (read : String → Except Json.ReadError α)
    (output : String) :
    (∃ a, m.LastRead read output a) ∨ (∃ e, m.LastFault read output e) ∨
      ∀ first last, ¬m.Block (lines output.toList) first last := by
  cases hfound : ((m.spots (lines output.toList)).map fun s =>
      read (payload (lines output.toList) s.1 s.2)).reverse.findSome? Except.toOption with
  | some a =>
    obtain ⟨s, hs, ha, hlater⟩ := exists_last_value (m.spots_pairwise _) hfound
    exact .inl ⟨a, s.1, s.2, mem_spots.1 hs, ha, fun i j hb => hlater (i, j) (mem_spots.2 hb)⟩
  | none =>
    have hall : ∀ i j, m.Block (lines output.toList) i j →
        ∃ e, read (payload (lines output.toList) i j) = .error e := by
      intro i j hb
      have := List.findSome?_eq_none_iff.1 hfound _
        (List.mem_reverse.2 (List.mem_map_of_mem (mem_spots.2 hb)))
      cases hr : read (payload (lines output.toList) i j) with
      | error e => exact ⟨e, rfl⟩
      | ok a => simp [hr, Except.toOption] at this
    by_cases hnil : m.spots (lines output.toList) = []
    · refine .inr (.inr fun first last hb => ?_)
      have := mem_spots.2 hb
      simp [hnil] at this
    · obtain ⟨s, hs, _, hle⟩ := exists_getLast? (m.spots_pairwise _) hnil
      obtain ⟨e, he⟩ := hall s.1 s.2 (mem_spots.1 hs)
      exact .inr (.inl ⟨e, hall, s.1, s.2, mem_spots.1 hs, he, fun i j hb => hle (i, j) (mem_spots.2 hb)⟩)

theorem decode_eq_ok_iff {a : α} : m.decode read output = .ok a ↔ m.LastRead read output a := by
  refine ⟨fun h => ?_, decode_of_lastRead⟩
  rcases lastRead_or_lastFault_or_no_block m read output with ⟨b, hb⟩ | ⟨e, he⟩ | hno
  · rw [decode_of_lastRead hb] at h
    injection h with h
    exact h ▸ hb
  · rw [decode_of_lastFault he] at h
    cases h
  · rw [decode_of_no_block hno] at h
    cases h

theorem LastRead.unique {a b : α} (ha : m.LastRead read output a) (hb : m.LastRead read output b) : a = b := by
  have := (decode_of_lastRead ha).symm.trans (decode_of_lastRead hb)
  injection this

end

end Markers

end ScriptBench
