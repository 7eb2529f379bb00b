import ScriptBench.Proofs.Markers.Block
import ScriptBench.Proofs.Text.Lines

/-! Decoding as a search by places: the start lines are tried from the last one back, and only the first fault
that is met is kept. The search never leaves the lines, and it decodes what the blocks say. -/
namespace ScriptBench

open Text

namespace Markers

variable {α : Type} {m : Markers} {rows : List (List Char)}

/-! Blocks and their end lines -/

/-- A start line starts a block just if some end line stands behind it. -/
theorem exists_block_iff {first : Nat} :
    (∃ last, m.Block rows first last) ↔
      (∃ line, rows[first]? = some line ∧ m.isStart line = true) ∧
        ∃ last line, first < last ∧ rows[last]? = some line ∧ m.isStop line = true := by
  constructor
  · rintro ⟨last, h⟩
    obtain ⟨line, hline, hstop⟩ := h.stop
    exact ⟨h.start, last, line, h.before, hline, hstop⟩
  · rintro ⟨hstart, last, line, hlt, hline, hstop⟩
    have hmem : line ∈ rows.drop (first + 1) := by
      refine List.mem_of_getElem? (i := last - (first + 1)) ?_
      rw [List.getElem?_drop, show first + 1 + (last - (first + 1)) = last by omega, hline]
    cases hcount : (rows.drop (first + 1)).findIdx? m.isStop with
    | none =>
      have := List.findIdx?_eq_none_iff.1 hcount line hmem
      rw [hstop] at this
      cases this
    | some count =>
      obtain ⟨hcount, hstop, hnearer⟩ := List.findIdx?_eq_some_iff_getElem.1 hcount
      rw [List.length_drop] at hcount
      rw [List.getElem_drop] at hstop
      refine ⟨first + 1 + count, hstart, ⟨_, List.getElem?_eq_getElem (by omega), hstop⟩, by omega,
        fun i other hi hlast hother => ?_⟩
      obtain ⟨hlt, rfl⟩ := List.getElem?_eq_some_iff.1 hother
      have hnearer := hnearer (i - (first + 1)) (by omega)
      rw [List.getElem_drop] at hnearer
      simpa [show first + 1 + (i - (first + 1)) = i by omega] using hnearer

/-- A start line inside a block shares its end line. -/
theorem Block.inner {first inner last : Nat} (h : m.Block rows first last) (hfirst : first < inner)
    (hlast : inner < last) {line : List Char} (hline : rows[inner]? = some line)
    (hstart : m.isStart line = true) : m.Block rows inner last where
  start := ⟨line, hline, hstart⟩
  stop := h.stop
  before := hlast
  nearest i other hi := h.nearest i other (by omega)

theorem body?_eq_none {tail : List (List Char)} (h : ∀ line ∈ tail, m.isStop line = false) :
    m.body? tail = none := by
  rw [body?_eq, List.findIdx?_eq_none_iff.2 h]
  rfl

/-- Without an end line there is no body. -/
theorem bodies_eq_nil {tail : List (List Char)} (h : ∀ line ∈ tail, m.isStop line = false) :
    m.bodies tail = [] := by
  induction tail with
  | nil => rfl
  | cons line tail ih =>
    have htail : ∀ line ∈ tail, m.isStop line = false := fun other hother => h other (by simp [hother])
    rw [bodies, ih htail, body?_eq_none htail]
    split <;> rfl

theorem body?_append {tail : List (List Char)} (h : ∀ line ∈ tail, m.isStop line = false) :
    m.body? (rows ++ tail) = m.body? rows := by
  induction rows with
  | nil => exact body?_eq_none h
  | cons line rows ih => rw [List.cons_append, body?, body?, ih]

/-- Lines behind the last end line stand in no block. -/
theorem bodies_append {tail : List (List Char)} (h : ∀ line ∈ tail, m.isStop line = false) :
    m.bodies (rows ++ tail) = m.bodies rows := by
  induction rows with
  | nil => exact bodies_eq_nil h
  | cons line rows ih => rw [List.cons_append, bodies, bodies, ih, body?_append h]

/-! The search -/

/-- The part of a list between two indices. There is none if they are the wrong way round or pass the end. -/
def slice? {β : Type} (xs : List β) (first last : Nat) : Option (List β) :=
  if first ≤ last ∧ last ≤ xs.length then some ((xs.take last).drop first) else none

/-- The indices of the start lines, in order. -/
def starts (m : Markers) (rows : List (List Char)) : List Nat :=
  (List.range rows.length).filter fun i => rows[i]?.any m.isStart

/-- Tries start lines one behind the other. A start line without an end line behind it is passed over, and of
the faults the first one is kept. There is no result only if a slice is out of range. -/
def scanFrom (m : Markers) (read : String → Except Json.ReadError α) (rows : List (List Char)) :
    List Nat → Option Json.ReadError → Option (Except PayloadError α)
  | [], none => some (.error (.missingMarkers m.consumer))
  | [], some e => some (.error (.invalidJson m.consumer e.message))
  | first :: more, fault? => do
    let behind ← slice? rows (first + 1) rows.length
    match behind.findIdx? m.isStop with
    | none => m.scanFrom read rows more fault?
    | some count =>
      let body ← slice? rows (first + 1) (first + 1 + count)
      match read (String.ofList (unlines body)) with
      | .ok a => some (.ok a)
      | .error e => m.scanFrom read rows more (fault?.or (some e))

/-- Searches an output from its last start line back. -/
def scan (m : Markers) (read : String → Except Json.ReadError α) (output : String) :
    Option (Except PayloadError α) :=
  m.scanFrom read (lines output.toList) (m.starts (lines output.toList)).reverse none

/-- What comes of results that are looked at in order, with the fault that was met before them. -/
def outcome (m : Markers) (fault? : Option Json.ReadError) :
    List (Except Json.ReadError α) → Except PayloadError α
  | [] =>
    match fault? with
    | none => .error (.missingMarkers m.consumer)
    | some e => .error (.invalidJson m.consumer e.message)
  | .ok a :: _ => .ok a
  | .error e :: more => m.outcome (fault?.or (some e)) more

/-- The block that a start line starts, if an end line stands behind it. -/
def spot? (m : Markers) (rows : List (List Char)) (first : Nat) : Option (Nat × Nat) :=
  ((rows.drop (first + 1)).findIdx? m.isStop).map fun count => (first, first + 1 + count)

theorem starts_cons (line : List Char) :
    m.starts (line :: rows) =
      (if m.isStart line then [0] else []) ++ (m.starts rows).map (· + 1) := by
  simp only [starts, List.length_cons, List.range_succ_eq_map, List.filter_cons, List.getElem?_cons_zero,
    Option.any_some, List.filter_map, Function.comp_def]
  split <;> simp

theorem spots_eq_starts (m : Markers) (rows : List (List Char)) :
    m.spots rows = (m.starts rows).filterMap (m.spot? rows) := by
  induction rows with
  | nil => rfl
  | cons line rows ih =>
    have hlater : ((m.starts rows).map (· + 1)).filterMap (m.spot? (line :: rows)) =
        (m.spots rows).map fun s => (s.1 + 1, s.2 + 1) := by
      rw [ih, List.filterMap_map, List.map_filterMap]
      congr 1
      funext i
      simp only [Function.comp_apply, spot?, List.drop_succ_cons, Option.map_map, Function.comp_def]
      congr 1
      funext count
      simp only [Prod.mk.injEq, true_and]
      omega
    rw [starts_cons, List.filterMap_append, hlater, spots]
    congr 1
    split
    · cases hcount : rows.findIdx? m.isStop <;> simp [spot?, hcount, Nat.add_comm]
    · rfl

variable {read : String → Except Json.ReadError α}

/-- No slice is out of range, and what the search finds are the blocks of the start lines it tries. -/
theorem scanFrom_eq {places : List Nat} (hplaces : ∀ i ∈ places, i < rows.length)
    (fault? : Option Json.ReadError) :
    m.scanFrom read rows places fault? =
      some (m.outcome fault? ((places.filterMap (m.spot? rows)).map fun s => read (payload rows s.1 s.2))) := by
  induction places generalizing fault? with
  | nil => cases fault? <;> rfl
  | cons first places ih =>
    have ih := ih fun i hi => hplaces i (by simp [hi])
    have hfirst : first < rows.length := hplaces first (by simp)
    have hbehind : slice? rows (first + 1) rows.length = some (rows.drop (first + 1)) := by
      rw [slice?, if_pos ⟨by omega, Nat.le_refl _⟩, List.take_length]
    rw [scanFrom, hbehind, Option.bind_eq_bind, Option.bind_some]
    cases hcount : (rows.drop (first + 1)).findIdx? m.isStop with
    | none =>
      have hspot : m.spot? rows first = none := by rw [spot?, hcount]; rfl
      rw [List.filterMap_cons_none hspot]
      exact ih fault?
    | some count =>
      have hspot : m.spot? rows first = some (first, first + 1 + count) := by rw [spot?, hcount]; rfl
      have hlt : first + 1 + count ≤ rows.length := by
        obtain ⟨hlt, _⟩ := List.findIdx?_eq_some_iff_getElem.1 hcount
        rw [List.length_drop] at hlt
        omega
      have hbody : slice? rows (first + 1) (first + 1 + count) =
          some ((rows.take (first + 1 + count)).drop (first + 1)) := by
        rw [slice?, if_pos ⟨by omega, hlt⟩]
      rw [List.filterMap_cons_some hspot, List.map_cons]
      dsimp only
      rw [hbody, Option.bind_some]
      rw [← payload]
      cases read (payload rows first (first + 1 + count)) with
      | ok a => rfl
      | error e => exact ih _

theorem outcome_some (e : Json.ReadError) (results : List (Except Json.ReadError α)) :
    m.outcome (some e) results =
      match results.findSome? Except.toOption with
      | some a => .ok a
      | none => .error (.invalidJson m.consumer e.message) := by
  induction results with
  | nil => rfl
  | cons result results ih =>
    cases result with
    | ok a => rfl
    | error e' => exact ih

/-- The first value counts, else the first fault. -/
theorem outcome_none (results : List (Except Json.ReadError α)) :
    m.outcome none results =
      match results.findSome? Except.toOption, results.head? with
      | some a, _ => .ok a
      | none, some (.error e) => .error (.invalidJson m.consumer e.message)
      | none, _ => .error (.missingMarkers m.consumer) := by
  cases results with
  | nil => rfl
  | cons result results =>
    cases result with
    | ok a => rfl
    | error e =>
      have hskip : (Except.error e :: results).findSome? Except.toOption = results.findSome? Except.toOption := rfl
      change m.outcome (some e) results = _
      rw [outcome_some, hskip, List.head?_cons]
      cases results.findSome? Except.toOption <;> rfl

/-- Decoding looks at the bodies from the last one back. -/
theorem decode_eq_outcome (m : Markers) (read : String → Except Json.ReadError α) (output : String) :
    m.decode read output =
      m.outcome none ((m.bodies (lines output.toList)).map fun body => read (String.ofList (unlines body))).reverse := by
  rw [decode, outcome_none, List.head?_reverse]
  rfl

/-- The search ends with what decoding gives. -/
theorem scan_eq_decode (m : Markers) (read : String → Except Json.ReadError α) (output : String) :
    m.scan read output = some (m.decode read output) := by
  have hplaces : ∀ i ∈ (m.starts (lines output.toList)).reverse, i < (lines output.toList).length := by
    intro i hi
    have hi := (List.mem_filter.1 (List.mem_reverse.1 hi)).1
    exact List.mem_range.1 hi
  rw [scan, scanFrom_eq hplaces, decode_eq_outcome, bodies_eq, spots_eq_starts, List.filterMap_reverse,
    List.map_reverse, List.map_map]
  rfl

/-! What decoding gives -/

variable {output : String}

theorem decode_eq_invalidJson_iff {consumer reason : String} :
    m.decode read output = .error (.invalidJson consumer reason) ↔
      consumer = m.consumer ∧ ∃ e, m.LastFault read output e ∧ e.message = reason := by
  constructor
  · intro h
    rcases lastRead_or_lastFault_or_no_block m read output with ⟨a, ha⟩ | ⟨e, he⟩ | hno
    · rw [decode_of_lastRead ha] at h
      cases h
    · rw [decode_of_lastFault he] at h
      cases h
      exact ⟨rfl, e, he, rfl⟩
    · rw [decode_of_no_block hno] at h
      cases h
  · rintro ⟨rfl, e, he, rfl⟩
    exact decode_of_lastFault he

theorem decode_eq_missingMarkers_iff {consumer : String} :
    m.decode read output = .error (.missingMarkers consumer) ↔
      consumer = m.consumer ∧ ∀ first last, ¬m.Block (lines output.toList) first last := by
  constructor
  · intro h
    rcases lastRead_or_lastFault_or_no_block m read output with ⟨a, ha⟩ | ⟨e, he⟩ | hno
    · rw [decode_of_lastRead ha] at h
      cases h
    · rw [decode_of_lastFault he] at h
      cases h
    · rw [decode_of_no_block hno] at h
      cases h
      exact ⟨rfl, hno⟩
  · rintro ⟨rfl, hno⟩
    exact decode_of_no_block hno

theorem decode_ne_wrongName (consumer expected found : String) :
    m.decode read output ≠ .error (.wrongName consumer expected found) := by
  intro h
  rcases lastRead_or_lastFault_or_no_block m read output with ⟨a, ha⟩ | ⟨e, he⟩ | hno
  · rw [decode_of_lastRead ha] at h
    cases h
  · rw [decode_of_lastFault he] at h
    cases h
  · rw [decode_of_no_block hno] at h
    cases h

theorem no_block_iff :
    (∀ first last, ¬m.Block rows first last) ↔
      ∀ (first last : Nat) (start line : List Char), first < last → rows[first]? = some start → m.isStart start = true →
        rows[last]? = some line → m.isStop line = false := by
  constructor
  · intro hno first last start line hlt hstart hisStart hline
    cases hstop : m.isStop line with
    | false => rfl
    | true =>
      obtain ⟨stop, hblock⟩ := exists_block_iff.2 ⟨⟨start, hstart, hisStart⟩, last, line, hlt, hline, hstop⟩
      exact (hno first stop hblock).elim
  · intro hno first last hblock
    obtain ⟨start, hstart, hisStart⟩ := hblock.start
    obtain ⟨line, hline, hstop⟩ := hblock.stop
    have := hno first last start line hblock.before hstart hisStart hline
    rw [hstop] at this
    cases this

theorem decode_of_lines_append {output' : String} {tail : List (List Char)}
    (hlines : lines output.toList = lines output'.toList ++ tail)
    (htail : ∀ line ∈ tail, m.isStop line = false) : m.decode read output = m.decode read output' := by
  rw [decode, decode, hlines, bodies_append htail]

/-- Decoding gives the value of the block that starts last among those that can be read; if there are blocks and
none can be read, the fault of the one that starts last; and if no end line stands behind a start line, that
there is no block. The search by places finds just this and never leaves the lines. Start lines behind the last
end line do not count, and start lines inside a block share its end line. -/
theorem decode_exact (m : Markers) (read : String → Except Json.ReadError α) (output : String) :
    lines output.toList = (Text.rows output.toList).dropLast.map trimReturn
      ++ (Text.rows output.toList).getLast?.toList.filter (· ≠ []) ∧
    (∀ a, m.decode read output = .ok a ↔ m.LastRead read output a) ∧
    (∀ consumer reason, m.decode read output = .error (.invalidJson consumer reason) ↔
      consumer = m.consumer ∧ ∃ e, m.LastFault read output e ∧ e.message = reason) ∧
    (∀ consumer, m.decode read output = .error (.missingMarkers consumer) ↔
      consumer = m.consumer ∧ ∀ (first last : Nat) (start line : List Char), first < last →
        (lines output.toList)[first]? = some start → m.isStart start = true →
        (lines output.toList)[last]? = some line → m.isStop line = false) ∧
    (∀ consumer expected found, m.decode read output ≠ .error (.wrongName consumer expected found)) ∧
    m.scan read output = some (m.decode read output) ∧
    (∀ output' tail, lines output.toList = lines output'.toList ++ tail →
      (∀ line ∈ tail, m.isStop line = false) → m.decode read output = m.decode read output') ∧
    (∀ (first inner last : Nat) (line : List Char), m.Block (lines output.toList) first last → first < inner → inner < last →
      (lines output.toList)[inner]? = some line → m.isStart line = true →
      m.Block (lines output.toList) inner last) := by
  refine ⟨lines_eq_rows _, fun a => decode_eq_ok_iff, fun consumer reason => decode_eq_invalidJson_iff,
    fun consumer => ?_, decode_ne_wrongName, scan_eq_decode m read output,
    fun output' tail => decode_of_lines_append, fun first inner last line h hfirst hlast => h.inner hfirst hlast⟩
  rw [decode_eq_missingMarkers_iff, no_block_iff]

end Markers

end ScriptBench
