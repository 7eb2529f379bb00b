import ScriptBench.Proofs.Json.Number
import ScriptBench.Proofs.Report.Colour
import ScriptBench.Proofs.Text.Lines
import ScriptBench.Proofs.Uuid

/-! Reports in colour. Without its colours such a report is the plain one, but for the blanks that set out labels in a
column: the characters of a colour sequence count as part of the label, so a coloured label has none behind it. -/
namespace ScriptBench

namespace Report

open Decimal (digitsOf)

/-! Columns -/

theorem padRight_of_le {width : Nat} {text : List Char} (h : width ≤ text.length) : padRight width text = text := by
  unfold padRight
  rw [Nat.sub_eq_zero_of_le h, List.replicate_zero, List.append_nil]

theorem length_padRight (width : Nat) (text : List Char) : (padRight width text).length = max text.length width := by
  unfold padRight
  rw [List.length_append, List.length_replicate]
  omega

theorem padRight_eq_self_iff {width : Nat} {text : List Char} : padRight width text = text ↔ width ≤ text.length := by
  constructor
  · intro h
    have hlength := congrArg List.length h
    rw [length_padRight] at hlength
    omega
  · exact padRight_of_le

/-- The sequences around a painted text have eight characters or more. -/
theorem padRight_paint {width : Nat} (hwidth : width ≤ 8) (ink : Ink) (text : List Char) :
    padRight width (paint true ink text) = paint true ink text := by
  have hsequences : 8 ≤ ink.on.length + ink.off.length := by
    cases ink <;> decide
  have hlength : (paint true ink text).length = ink.on.length + text.length + ink.off.length := by
    change (ink.on ++ text ++ ink.off).length = _
    rw [List.length_append, List.length_append]
  exact padRight_of_le (by omega)

/-- Parts that are never longer put together are not longer either. -/
theorem length_flatMap_le {α β : Type} {f g : α → List β} {xs : List α}
    (h : ∀ x ∈ xs, (f x).length ≤ (g x).length) : (xs.flatMap f).length ≤ (xs.flatMap g).length := by
  induction xs with
  | nil => exact Nat.le_refl _
  | cons x xs ih =>
    obtain ⟨hx, hxs⟩ := List.forall_mem_cons.1 h
    have hmore := ih hxs
    rw [List.flatMap_cons, List.flatMap_cons, List.length_append, List.length_append]
    omega

theorem flatMap_eq_iff {α β : Type} {f g : α → List β} {xs : List α}
    (h : ∀ x ∈ xs, (f x).length ≤ (g x).length) : xs.flatMap f = xs.flatMap g ↔ ∀ x ∈ xs, f x = g x := by
  induction xs with
  | nil => simp
  | cons x xs ih =>
    obtain ⟨hx, hxs⟩ := List.forall_mem_cons.1 h
    have hmore := length_flatMap_le hxs
    rw [List.flatMap_cons, List.flatMap_cons, List.forall_mem_cons]
    constructor
    · intro heq
      have hlength := congrArg List.length heq
      rw [List.length_append, List.length_append] at hlength
      have hsame : (f x).length = (g x).length := by omega
      obtain ⟨hfirst, hrest⟩ := List.append_inj heq hsame
      exact ⟨hfirst, (ih hxs).1 hrest⟩
    · intro hparts
      rw [hparts.1, (ih hxs).2 hparts.2]

/-! Texts of the program that hold no escape character -/

def EscapeFree (text : String) : Prop := '\x1b' ∉ text.toList

instance : DecidablePred EscapeFree := fun text => inferInstanceAs (Decidable ('\x1b' ∉ text.toList))

structure EscapeFreeOutcome (o : Outcome) : Prop where
  stdout : EscapeFree o.stdout
  stderr : EscapeFree o.stderr
  value : ∀ v ∈ o.value?, EscapeFree v
  kind : ∀ f ∈ o.failure?, EscapeFree f.kind.name
  message : ∀ f ∈ o.failure?, EscapeFree f.message
  traceback : ∀ f ∈ o.failure?, EscapeFree f.traceback

structure EscapeFreeTrace (t : Trace) : Prop where
  names : ∀ s ∈ t.steps, ∀ e ∈ s.bindings.entries, EscapeFree e.1
  values : ∀ s ∈ t.steps, ∀ e ∈ s.bindings.entries, EscapeFree e.2
  output : EscapeFree t.output
  error : ∀ e ∈ t.error?, EscapeFree e

structure EscapeFreeTest (t : Test) : Prop where
  displayName : EscapeFree t.displayName
  output : EscapeFree t.output

theorem escape_not_mem_digitsOf (n : Nat) : '\x1b' ∉ digitsOf n := by
  intro h
  have hdigit := Json.isDigit_of_mem_digitsOf h
  revert hdigit
  decide

theorem escape_not_mem_replicate {n : Nat} : '\x1b' ∉ List.replicate n ' ' := by
  intro h
  have hblank := List.eq_of_mem_replicate h
  revert hblank
  decide

theorem escape_not_mem_text (u : Uuid) : '\x1b' ∉ u.text.toList := by
  have hdigit : ∀ d : Fin 16, '\x1b' ≠ Json.hexDigit d.val := by decide
  intro h
  rw [Uuid.text, String.toList_ofList] at h
  rcases Uuid.mem_hyphenate h with h | h
  · obtain ⟨d, _, hd⟩ := List.mem_map.1 h
    exact hdigit d hd.symm
  · revert h
    decide

/-! Results, tests and summaries -/

theorem paints_outcome {o : Outcome} (h : EscapeFreeOutcome o) :
    Paints (outcomeChars true o) (outcomeChars false o) := by
  have hvalue : ∀ v ∈ o.value?, '\x1b' ∉ '=' :: '>' :: ' ' :: v.toList := by
    intro v hv
    have := h.value v hv
    simpa [EscapeFree] using this
  have htext : ∀ f ∈ o.failure?, '\x1b' ∉ f.text.toList := by
    intro f hf
    have hkind := h.kind f hf
    have hmessage := h.message f hf
    unfold Failure.text
    split
    · exact hkind
    · unfold EscapeFree at hkind hmessage
      rw [String.toList_append, String.toList_append, List.mem_append, List.mem_append]
      rintro ((hmem | hmem) | hmem)
      · exact hkind hmem
      · revert hmem
        decide
      · exact hmessage hmem
  apply Paints.append
  · apply Paints.append
    · apply Paints.append
      · exact paints_self h.stdout
      · exact (paints_paint true .yellow h.stderr).part _
    · cases hv : o.value? with
      | none => exact paints_self List.not_mem_nil
      | some v => exact (paints_paint true .cyan (hvalue v hv)).append (paints_self (by decide))
  · cases hf : o.failure? with
    | none => exact paints_self List.not_mem_nil
    | some f =>
      apply Paints.append
      · exact ((paints_paint true .dim (h.traceback f hf)).part _).append (paints_paint true .red (htext f hf))
      · exact paints_self (by decide)

theorem paints_status (s : Status) : Paints (status true s) s.label.toList := by
  apply paints_paint
  cases s <;> decide

theorem paints_test {t : Test} (h : EscapeFreeTest t) : Paints (testChars true t) (testChars false t) := by
  have hlines : '\x1b' ∉ (Text.lines t.output.toList).flatMap fun line => [' ', ' ', ' ', ' '] ++ line ++ ['\n'] := by
    rw [List.mem_flatMap]
    rintro ⟨line, hline, hmem⟩
    have hfree : '\x1b' ∉ line := fun hesc => h.output (Text.mem_of_mem_lines hline hesc)
    simp [hfree] at hmem
  apply Paints.append
  · apply Paints.append
    · exact paints_status t.status
    · exact (paints_self h.displayName).cons (by decide)
  · exact ((paints_self hlines).part _).cons (by decide)

theorem paints_summary (s : Summary) : Paints (summaryChars true s) (summaryChars false s) := by
  apply Paints.append
  · apply paints_paint
    have hwords : '\x1b' ∉ " passed, ".toList ∧ '\x1b' ∉ " failed, ".toList ∧ '\x1b' ∉ " errors".toList := by decide
    simp only [List.mem_append, escape_not_mem_digitsOf, hwords, or_self, not_false_eq_true]
  · exact paints_self (by decide)

/-! Traces and lists of tests, which set out labels in columns -/

def stepLabel (s : Step) : List Char := if s.isEnd then ['e', 'n', 'd'] else 'L' :: digitsOf s.line.toNat

/-- The plain line for a step, with its label in a column of some width. -/
def stepIn (width : Nat) (s : Step) : List Char :=
  padLeft 4 (digitsOf s.index.toNat) ++ ' ' :: padRight width (stepLabel s)
    ++ ' ' :: List.replicate (2 * s.depth.toNat) ' '
    ++ Json.separate [' '] (s.bindings.entries.map fun e => variableChars false s.changed e.1 e.2) ++ ['\n']

def traceIn (width : Nat) (t : Trace) : List Char :=
  t.steps.flatMap (stepIn width) ++ traceChars false { t with steps := [] }

/-- The plain line for a test, with its status in a column of some width. -/
def testIn (width : Nat) (t : Test) : List Char :=
  t.id.text.toList ++ ' ' :: ' ' :: padRight width t.status.label.toList ++ ' ' :: t.displayName.toList ++ ['\n']

theorem traceChars_eq (colour : Bool) (t : Trace) :
    traceChars colour t = t.steps.flatMap (stepChars colour) ++ traceChars colour { t with steps := [] } := by
  unfold traceChars
  simp only [List.flatMap_nil, List.nil_append, List.append_assoc]

theorem traceChars_plain (t : Trace) : traceChars false t = traceIn 5 t := by
  rw [traceChars_eq]
  rfl

theorem testLine_plain : testLine false = testIn 8 := rfl

theorem padRight_zero (text : List Char) : padRight 0 text = text := padRight_of_le (Nat.zero_le _)

theorem escape_not_mem_stepLabel (s : Step) : '\x1b' ∉ stepLabel s := by
  unfold stepLabel
  split
  · decide
  · rw [List.mem_cons, not_or]
    exact ⟨by decide, escape_not_mem_digitsOf _⟩

theorem paints_variable (changed : Names) {name value : String} (hname : EscapeFree name) (hvalue : EscapeFree value) :
    Paints (variableChars true changed name value) (variableChars false changed name value) := by
  have hpair : '\x1b' ∉ name.toList ++ '=' :: value.toList := by
    rw [List.mem_append, List.mem_cons]
    rintro (hmem | hmem | hmem)
    · exact hname hmem
    · revert hmem
      decide
    · exact hvalue hmem
  unfold variableChars
  split
  · exact paints_paint true .green hpair
  · exact paints_self hpair

theorem paints_step {s : Step} (hnames : ∀ e ∈ s.bindings.entries, EscapeFree e.1)
    (hvalues : ∀ e ∈ s.bindings.entries, EscapeFree e.2) : Paints (stepChars true s) (stepIn 0 s) := by
  have hindex : '\x1b' ∉ padLeft 4 (digitsOf s.index.toNat) := by
    rw [padLeft, List.mem_append, not_or]
    exact ⟨escape_not_mem_replicate, escape_not_mem_digitsOf _⟩
  have hlabel : Paints (padRight 5 (paint true .cyan (stepLabel s))) (padRight 0 (stepLabel s)) := by
    rw [padRight_paint (by decide), padRight_zero]
    exact paints_paint true .cyan (escape_not_mem_stepLabel s)
  have hbindings : Paints
      (Json.separate [' '] (s.bindings.entries.map fun e => variableChars true s.changed e.1 e.2))
      (Json.separate [' '] (s.bindings.entries.map fun e => variableChars false s.changed e.1 e.2)) := by
    apply paints_separate (by decide)
    intro e he
    exact paints_variable s.changed (hnames e he) (hvalues e he)
  apply Paints.append
  · apply Paints.append
    · apply Paints.append
      · exact (paints_self hindex).append (hlabel.cons (by decide))
      · exact (paints_self escape_not_mem_replicate).cons (by decide)
    · exact hbindings
  · exact paints_self (by decide)

theorem paints_trace {t : Trace} (h : EscapeFreeTrace t) : Paints (traceChars true t) (traceIn 0 t) := by
  rw [traceChars_eq]
  apply Paints.append
  · apply paints_flatMap
    intro s hs
    exact paints_step (h.names s hs) (h.values s hs)
  · have houtput : '\x1b' ∉ "--- output ---\n".toList ++ t.output.toList := by
      rw [List.mem_append, not_or]
      exact ⟨by decide, h.output⟩
    have htruncated : Paints (paint true .yellow "(trace truncated)".toList ++ ['\n'])
        ("(trace truncated)".toList ++ ['\n']) :=
      (paints_paint true .yellow (by decide)).append (paints_self (by decide))
    apply Paints.append
    · exact (htruncated.part t.truncated).append ((paints_self houtput).part _)
    · cases he : t.error? with
      | none => exact paints_self List.not_mem_nil
      | some e => exact (paints_paint true .red (h.error e he)).append (paints_self (by decide))

theorem paints_testLine {t : Test} (h : EscapeFree t.displayName) : Paints (testLine true t) (testIn 0 t) := by
  have hlabel : Paints (padRight 8 (status true t.status)) (padRight 0 t.status.label.toList) := by
    rw [status, padRight_paint (Nat.le_refl 8), padRight_zero]
    exact paints_status t.status
  apply Paints.append
  · apply Paints.append
    · exact (paints_self (escape_not_mem_text t.id)).append ((hlabel.cons (by decide)).cons (by decide))
    · exact (paints_self h).cons (by decide)
  · exact paints_self (by decide)

/-- A label fills its column of five from line 1000 on. -/
theorem five_le_length_stepLabel (s : Step) : 5 ≤ (stepLabel s).length ↔ 1000 ≤ s.line.toNat := by
  unfold stepLabel
  split
  · rename_i hend
    have hzero : s.line = Script.programEnd := eq_of_beq hend
    rw [hzero]
    decide
  · have hdigits : (digitsOf s.line.toNat).length ≤ 3 ↔ s.line.toNat < 1000 :=
      Nat.length_toDigits_le_iff (by decide) (by decide)
    rw [List.length_cons]
    omega

theorem length_padRight_le (width : Nat) (text : List Char) :
    (padRight 0 text).length ≤ (padRight width text).length := by
  rw [length_padRight, length_padRight]
  omega

theorem stepIn_eq_iff (s : Step) : stepIn 0 s = stepIn 5 s ↔ 1000 ≤ s.line.toNat := by
  unfold stepIn
  rw [List.append_left_inj, List.append_left_inj, List.append_left_inj, List.append_right_inj, List.cons_inj_right,
    padRight_zero, eq_comm, padRight_eq_self_iff, five_le_length_stepLabel]

theorem traceIn_eq_iff (t : Trace) : traceIn 0 t = traceIn 5 t ↔ ∀ s ∈ t.steps, 1000 ≤ s.line.toNat := by
  have hlength : ∀ s ∈ t.steps, (stepIn 0 s).length ≤ (stepIn 5 s).length := by
    intro s _
    have hlabel := length_padRight_le 5 (stepLabel s)
    simp only [stepIn, List.length_append, List.length_cons]
    omega
  unfold traceIn
  rw [List.append_left_inj, flatMap_eq_iff hlength]
  simp only [stepIn_eq_iff]

theorem testIn_ne (t : Test) : testIn 0 t ≠ testIn 8 t := by
  have hshort : t.status.label.toList.length < 8 := by
    cases t.status <;> decide
  unfold testIn
  rw [Ne, List.append_left_inj, List.append_left_inj, List.append_right_inj, List.cons_inj_right, List.cons_inj_right,
    padRight_zero, eq_comm, padRight_eq_self_iff]
  omega

theorem tests_eq_iff (ts : List Test) : ts.flatMap (testIn 0) = ts.flatMap (testIn 8) ↔ ts = [] := by
  have hlength : ∀ t ∈ ts, (testIn 0 t).length ≤ (testIn 8 t).length := by
    intro t _
    have hlabel := length_padRight_le 8 t.status.label.toList
    simp only [testIn, List.length_append, List.length_cons]
    omega
  rw [flatMap_eq_iff hlength]
  constructor
  · intro hall
    exact List.eq_nil_iff_forall_not_mem.2 fun t ht => testIn_ne t (hall t ht)
  · intro hnil
    rw [hnil]
    intro t ht
    cases ht

/-- Results, tests of their own and summaries lose nothing but their colours. In a coloured trace or list of tests the
blanks behind labels are missing as well, so it is the plain one only if no plain label has any. -/
theorem uncoloured_reports {o : Outcome} {t : Test} {s : Summary} {recorded : Trace} {ts : List Test}
    (ho : EscapeFreeOutcome o) (ht : EscapeFreeTest t) (hrecorded : EscapeFreeTrace recorded)
    (hts : ∀ t ∈ ts, EscapeFree t.displayName) :
    uncoloured (outcome true o).toList = (outcome false o).toList ∧
    uncoloured (test true t).toList = (test false t).toList ∧
    uncoloured (summary true s).toList = (summary false s).toList ∧
    (uncoloured (trace true recorded).toList = traceIn 0 recorded ∧ (trace false recorded).toList = traceIn 5 recorded ∧
      (uncoloured (trace true recorded).toList = (trace false recorded).toList ↔
        ∀ step ∈ recorded.steps, 1000 ≤ step.line.toNat)) ∧
    uncoloured (tests true ts).toList = ts.flatMap (testIn 0) ∧ (tests false ts).toList = ts.flatMap (testIn 8) ∧
      (uncoloured (tests true ts).toList = (tests false ts).toList ↔ ts = []) := by
  constructor
  · rw [outcome, outcome, String.toList_ofList, String.toList_ofList]
    exact (paints_outcome ho).uncoloured_eq
  constructor
  · rw [test, test, String.toList_ofList, String.toList_ofList]
    exact (paints_test ht).uncoloured_eq
  constructor
  · rw [summary, summary, String.toList_ofList, String.toList_ofList]
    exact (paints_summary s).uncoloured_eq
  constructor
  · have hcoloured : uncoloured (trace true recorded).toList = traceIn 0 recorded := by
      rw [trace, String.toList_ofList]
      exact (paints_trace hrecorded).uncoloured_eq
    have hplain : (trace false recorded).toList = traceIn 5 recorded := by
      rw [trace, String.toList_ofList, traceChars_plain]
    rw [hcoloured, hplain]
    exact ⟨rfl, rfl, traceIn_eq_iff recorded⟩
  · have hcoloured : uncoloured (tests true ts).toList = ts.flatMap (testIn 0) := by
      rw [tests, String.toList_ofList]
      exact (paints_flatMap fun t ht => paints_testLine (hts t ht)).uncoloured_eq
    have hplain : (tests false ts).toList = ts.flatMap (testIn 8) := by
      rw [tests, String.toList_ofList, testLine_plain]
    rw [hcoloured, hplain]
    exact ⟨rfl, rfl, tests_eq_iff ts⟩

/-- The label of line 1000 fills its column, but no status of a test does. -/
theorem uncoloured_reports_late_line :
    let o : Outcome := ⟨false, "1", "", some "2", some ⟨.exception "ValueError", "no", ""⟩⟩
    let t : Test := ⟨⟨.replicate 32 0, rfl⟩, "test_a", some "test_a", "def test_a(): pass", .failed, "no", none⟩
    let recorded : Trace := ⟨true, [⟨0, 1000, 0, .ofList [("n", "1")], .ofList ["n"], ""⟩], "", none, none, true⟩
    (EscapeFreeOutcome o ∧ EscapeFreeTest t ∧ EscapeFreeTrace recorded) ∧
    uncoloured (outcome true o).toList = (outcome false o).toList ∧
    uncoloured (test true t).toList = (test false t).toList ∧
    uncoloured (summary true ⟨0, 1, 0⟩).toList = (summary false ⟨0, 1, 0⟩).toList ∧
    uncoloured (trace true recorded).toList = (trace false recorded).toList ∧
    uncoloured (tests true [t]).toList ≠ (tests false [t]).toList := by
  intro o t recorded
  have ho : EscapeFreeOutcome o := ⟨by decide, by decide, by decide, by decide, by decide, by decide⟩
  have ht : EscapeFreeTest t := ⟨by decide, by decide⟩
  have hrecorded : EscapeFreeTrace recorded := ⟨by decide, by decide, by decide, by decide⟩
  obtain ⟨houtcome, htest, hsummary, ⟨_, _, htrace⟩, _, _, htests⟩ :=
    @uncoloured_reports o t ⟨0, 1, 0⟩ recorded [t] ho ht hrecorded (List.forall_mem_singleton.2 ht.displayName)
  exact ⟨⟨ho, ht, hrecorded⟩, houtcome, htest, hsummary, htrace.2 (by decide), mt htests.1 (List.cons_ne_nil t [])⟩

/-- The label of a passed test stands in a column of eight, but not if it is green. -/
theorem colour_moves_column :
    let t : Test := ⟨⟨.replicate 32 0, rfl⟩, "test_a", some "test_a", "def test_a(): pass", .passed, "", none⟩
    EscapeFreeTest t ∧
    String.ofList (uncoloured (tests true [t]).toList) = "00000000-0000-0000-0000-000000000000  PASSED test_a\n" ∧
    tests false [t] = "00000000-0000-0000-0000-000000000000  PASSED   test_a\n" := by
  intro t
  have hfree : EscapeFreeTest t := ⟨by decide, by decide⟩
  have hcoloured : uncoloured (tests true [t]).toList = [t].flatMap (testIn 0) := by
    rw [tests, String.toList_ofList]
    exact (paints_flatMap (List.forall_mem_singleton.2 (paints_testLine hfree.displayName))).uncoloured_eq
  rw [hcoloured]
  exact ⟨hfree, by decide, by decide⟩

end Report

end ScriptBench
