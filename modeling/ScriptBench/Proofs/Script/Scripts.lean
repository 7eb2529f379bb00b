import ScriptBench.Proofs.Json.Quote
import ScriptBench.Proofs.Script.Template
import ScriptBench.Script.TestScript
import ScriptBench.Script.TraceScript

/-! The two scripts. Whatever the texts of a user hold, each lands in the place of its placeholder as one literal
on one row, and the rest of a script is its template. -/
namespace ScriptBench.Script

/-! Values -/

theorem feed_not_mem_literal (text : String) : '\n' ∉ (Json.literal text).toList := by
  intro hmem
  rw [Json.literal, String.toList_ofList] at hmem
  have hle := Json.le_toNat_of_mem_quote hmem
  exact absurd hle (by decide)

theorem literal_inj {a b : String} : Json.literal a = Json.literal b ↔ a = b := by
  rw [Json.literal, Json.literal, ← String.toList_inj, String.toList_ofList, String.toList_ofList, Json.quote_inj,
    String.toList_inj]

theorem feed_not_mem_toString (n : Nat) : '\n' ∉ (toString n).toList := by
  intro hmem
  rw [Nat.toString_eq_repr, Nat.repr_eq_ofList_toDigits, String.toList_ofList] at hmem
  exact absurd (Nat.isDigit_of_mem_toDigits (by decide) (by decide) hmem) (by decide)

theorem toString_inj {m n : Nat} : toString m = toString n ↔ m = n := by
  constructor
  · intro h
    rw [Nat.toString_eq_repr, Nat.toString_eq_repr, Nat.repr_eq_ofList_toDigits, Nat.repr_eq_ofList_toDigits,
      ← String.toList_inj, String.toList_ofList, String.toList_ofList] at h
    rw [← Nat.ofDigitChars_ten_toDigits (n := m), h, Nat.ofDigitChars_ten_toDigits]
  · rintro rfl
    rfl

/-- A literal begins with a quotation mark, and no name does. -/
theorem literal_ne_none (text : String) : Json.literal text ≠ "None" := by
  intro h
  have hfirst : ('"' :: (text.toList.flatMap Json.escape ++ ['"'])) = ['N', 'o', 'n', 'e'] := by
    rw [Json.literal] at h
    exact String.ofList_inj.1 h
  exact absurd (List.cons.inj hfirst).1 (by decide)

theorem feed_not_mem_function (function : Option String) :
    '\n' ∉ ((function.map Json.literal).getD "None").toList := by
  cases function with
  | none => decide
  | some name => exact feed_not_mem_literal name

theorem function_inj {f g : Option String} :
    (f.map Json.literal).getD "None" = (g.map Json.literal).getD "None" ↔ f = g := by
  constructor
  · intro h
    cases f with
    | none =>
      cases g with
      | none => rfl
      | some name => exact (literal_ne_none name h.symm).elim
    | some name =>
      cases g with
      | none => exact (literal_ne_none name h).elim
      | some name' => rw [literal_inj.1 h]
  · rintro rfl
    rfl

/-! Templates -/

theorem holed_traceRows : ∃ rows names, Spelled traceRows rows ∧
    Spelled ["SOURCE", "MAX_STEPS", "START_MARKER", "END_MARKER"] names ∧ Holed names rows := by
  apply Exists.intro
  apply Exists.intro
  apply And.intro
  case left =>
    unfold traceRows
    repeat apply Spelled.cons
    apply Spelled.nil
  case right =>
    apply And.intro
    case left =>
      repeat apply Spelled.cons
      apply Spelled.nil
    case right => decide +kernel

theorem holed_testRows : ∃ rows names, Spelled testRows rows ∧
    Spelled ["NAME", "FUNCTION", "MAIN", "TEST", "START_MARKER", "END_MARKER"] names ∧ Holed names rows := by
  apply Exists.intro
  apply Exists.intro
  apply And.intro
  case left =>
    unfold testRows
    repeat apply Spelled.cons
    apply Spelled.nil
  case right =>
    apply And.intro
    case left =>
      repeat apply Spelled.cons
      apply Spelled.nil
    case right => decide +kernel

theorem filled_traceScript (source : String) (maxSteps : Nat) :
    Filled traceTemplate
      [("SOURCE", Json.literal source), ("MAX_STEPS", toString maxSteps),
        ("START_MARKER", Json.literal Markers.trace.start), ("END_MARKER", Json.literal Markers.trace.stop)]
      (traceScript source maxSteps) := by
  obtain ⟨rows, names, hrows, hnames, hholed⟩ := holed_traceRows
  refine filled_fill hrows hnames hholed ?_
  simp only [List.forall_mem_cons]
  exact ⟨feed_not_mem_literal _, feed_not_mem_toString _, feed_not_mem_literal _, feed_not_mem_literal _, by simp⟩

theorem filled_testScript (name : String) (function : Option String) (main test : String) :
    Filled testTemplate
      [("NAME", Json.literal name), ("FUNCTION", (function.map Json.literal).getD "None"),
        ("MAIN", Json.literal main), ("TEST", Json.literal test),
        ("START_MARKER", Json.literal Markers.test.start), ("END_MARKER", Json.literal Markers.test.stop)]
      (testScript name function main test) := by
  obtain ⟨rows, names, hrows, hnames, hholed⟩ := holed_testRows
  refine filled_fill hrows hnames hholed ?_
  simp only [List.forall_mem_cons]
  exact ⟨feed_not_mem_literal _, feed_not_mem_function _, feed_not_mem_literal _, feed_not_mem_literal _,
    feed_not_mem_literal _, feed_not_mem_literal _, by simp⟩

theorem traceScript_inj {source source' : String} {maxSteps maxSteps' : Nat} :
    traceScript source maxSteps = traceScript source' maxSteps' ↔ source = source' ∧ maxSteps = maxSteps' := by
  constructor
  · intro h
    have hfilled := filled_traceScript source maxSteps
    have hfilled' := filled_traceScript source' maxSteps'
    rw [← h] at hfilled'
    have hvalues := hfilled.values_eq hfilled' rfl
    simp only [List.cons.injEq, Prod.mk.injEq, true_and, and_true, literal_inj, toString_inj] at hvalues
    exact hvalues
  · rintro ⟨rfl, rfl⟩
    rfl

theorem testScript_inj {name name' : String} {function function' : Option String} {main main' test test' : String} :
    testScript name function main test = testScript name' function' main' test' ↔
      name = name' ∧ function = function' ∧ main = main' ∧ test = test' := by
  constructor
  · intro h
    have hfilled := filled_testScript name function main test
    have hfilled' := filled_testScript name' function' main' test'
    rw [← h] at hfilled'
    have hvalues := hfilled.values_eq hfilled' rfl
    simp only [List.cons.injEq, Prod.mk.injEq, true_and, and_true, literal_inj, function_inj] at hvalues
    exact hvalues
  · rintro ⟨rfl, rfl, rfl, rfl⟩
    rfl

/-- Nothing that a user writes changes a script beyond the places of the placeholders, and a script tells what it
was made from. -/
theorem scripts_faithful :
    (∀ (source : String) (maxSteps : Nat),
      Filled traceTemplate
        [("SOURCE", Json.literal source), ("MAX_STEPS", toString maxSteps),
          ("START_MARKER", Json.literal Markers.trace.start), ("END_MARKER", Json.literal Markers.trace.stop)]
        (traceScript source maxSteps)) ∧
    (∀ (name : String) (function : Option String) (main test : String),
      Filled testTemplate
        [("NAME", Json.literal name), ("FUNCTION", (function.map Json.literal).getD "None"),
          ("MAIN", Json.literal main), ("TEST", Json.literal test),
          ("START_MARKER", Json.literal Markers.test.start), ("END_MARKER", Json.literal Markers.test.stop)]
        (testScript name function main test)) ∧
    (∀ (source source' : String) (maxSteps maxSteps' : Nat),
      traceScript source maxSteps = traceScript source' maxSteps' ↔ source = source' ∧ maxSteps = maxSteps') ∧
    (∀ (name name' : String) (function function' : Option String) (main main' test test' : String),
      testScript name function main test = testScript name' function' main' test' ↔
        name = name' ∧ function = function' ∧ main = main' ∧ test = test') :=
  ⟨filled_traceScript, filled_testScript, fun _ _ _ _ => traceScript_inj, fun _ _ _ _ _ _ _ _ => testScript_inj⟩

end ScriptBench.Script
