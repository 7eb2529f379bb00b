import ScriptBench.Trace.Cursor

/-! Any sequence of loads and moves of a cursor. The position keeps within the trace, and on a trace with steps it is
that of a counter that stops at both ends. -/
namespace ScriptBench.Cursor

inductive Move where
  | forward
  | back
  | jump (index : Nat)
  | reset

/-- What a move gives, and the cursor behind it. -/
def move (c : Cursor) : Move → Option Step × Cursor
  | .forward => c.forward
  | .back => c.back
  | .jump i => c.jump i
  | .reset => (none, c.reset)

inductive Act where
  /-- A program was traced with this result. -/
  | load (result : Except TraceError Trace)
  | move (m : Move)

def act (c : Cursor) : Act → Cursor
  | .load result => c.load result
  | .move m => (c.move m).2

def run (c : Cursor) (acts : List Act) : Cursor := acts.foldl act c

/-! The counter -/

/-- The whole number from zero to below `n` that is nearest. -/
def clamp (n : Nat) (k : Int) : Int := max 0 (min k (n - 1))

/-- What a move makes of a counter that stops at both ends. -/
def count (n : Nat) (k : Int) : Move → Int
  | .forward => clamp n (k + 1)
  | .back => clamp n (k - 1)
  | .jump i => if i < n then i else k
  | .reset => 0

/-! Machine words -/

/-- The position behind a step forward, in words that wrap around. -/
def forwardWord (length position : UInt64) : UInt64 :=
  if length = 0 then position else min (position + 1) (length - 1)

/-- The position behind a step back, in words that wrap around. -/
def backWord (position : UInt64) : UInt64 := if position = 0 then 0 else position - 1

/-- Whether the last step is reached, in words that wrap around. -/
def atEndWord (length position : UInt64) : Bool := length ≤ position + 1

/-! One move -/

/-- The position that a move leads to on a trace of `n` steps. -/
def nextPosition (n position : Nat) : Move → Nat
  | .forward => if n = 0 then position else min (position + 1) (n - 1)
  | .back => position - 1
  | .jump i => if i < n then i else position
  | .reset => 0

variable {c : Cursor}

theorem forward_of_nil (h : c.steps = []) : c.forward = (none, c) := by
  unfold forward
  rw [h]
  rfl

theorem forward_of_ne_nil (h : c.steps ≠ []) :
    c.forward.2 = { c with position := min (c.position + 1) (c.steps.length - 1) } := by
  unfold forward
  rw [if_neg fun hempty => h (List.isEmpty_iff.1 hempty)]

theorem jump_of_lt {i : Nat} (h : i < c.steps.length) :
    c.jump i = (some c.steps[i], { c with position := i }) := by
  unfold jump
  rw [if_pos h]
  exact congrArg (·, _) (List.getElem?_eq_getElem h)

theorem jump_of_le {i : Nat} (h : c.steps.length ≤ i) : c.jump i = (none, c) := if_neg (Nat.not_lt.2 h)

/-- A move changes nothing but the position. -/
theorem move_snd (c : Cursor) (m : Move) :
    (c.move m).2 = { c with position := nextPosition c.steps.length c.position m } := by
  cases m with
  | forward =>
    change c.forward.2 = _
    by_cases hnil : c.steps = []
    · rw [forward_of_nil hnil, hnil]
      rfl
    · rw [forward_of_ne_nil hnil, nextPosition, if_neg fun hzero => hnil (List.length_eq_zero_iff.1 hzero)]
  | back => rfl
  | jump i =>
    change (c.jump i).2 = _
    by_cases hi : i < c.steps.length
    · rw [jump_of_lt hi, nextPosition, if_pos hi]
    · rw [jump_of_le (Nat.not_lt.1 hi), nextPosition, if_neg hi]
  | reset => rfl

theorem steps_move (c : Cursor) (m : Move) : (c.move m).2.steps = c.steps := by
  rw [move_snd]
  rfl

/-! What holds at any time -/

/-- The position is that of a step, or zero if there is none. -/
def Within (c : Cursor) : Prop := c.position ≤ c.steps.length - 1

theorem within_load (c : Cursor) (result : Except TraceError Trace) : (c.load result).Within :=
  Nat.zero_le ((c.load result).steps.length - 1)

theorem Within.move (h : c.Within) (m : Move) : (c.move m).2.Within := by
  unfold Within at h ⊢
  rw [steps_move, move_snd]
  cases m with
  | forward =>
    change (if c.steps.length = 0 then c.position else min (c.position + 1) (c.steps.length - 1)) ≤ _
    split <;> omega
  | back =>
    change c.position - 1 ≤ _
    omega
  | jump i =>
    change (if i < c.steps.length then i else c.position) ≤ _
    split <;> omega
  | reset => exact Nat.zero_le _

theorem Within.act (h : c.Within) (a : Act) : (c.act a).Within := by
  cases a with
  | load result => exact c.within_load result
  | move m => exact h.move m

theorem Within.run (h : c.Within) (acts : List Act) : (c.run acts).Within := by
  induction acts generalizing c with
  | nil => exact h
  | cons a acts ih => exact ih (h.act a)

theorem within_empty : empty.Within := Nat.le_refl 0

theorem Within.position_eq_zero (h : c.Within) (hnil : c.steps = []) : c.position = 0 := by
  unfold Within at h
  rw [hnil] at h
  exact Nat.le_zero.1 h

theorem Within.position_lt (h : c.Within) (hne : c.steps ≠ []) : c.position < c.steps.length := by
  have hpos := List.length_pos_iff.2 hne
  unfold Within at h
  omega

theorem current?_of_nil (h : c.steps = []) : c.current? = none := by
  unfold current?
  rw [h]
  rfl

/-- The last step is reached just if a step forward leads nowhere. -/
theorem Within.isAtEnd_iff (h : c.Within) : c.isAtEnd = true ↔ c.forward.2.position = c.position := by
  have hnext := congrArg position (c.move_snd .forward)
  change c.forward.2.position = if c.steps.length = 0 then c.position else _ at hnext
  unfold Within at h
  rw [hnext, isAtEnd, decide_eq_true_iff]
  split <;> omega

/-! The counter goes with the position -/

theorem count_eq {n position : Nat} (h : position < n) (m : Move) :
    count n position m = nextPosition n position m := by
  cases m with
  | forward =>
    change max 0 (min ((position : Int) + 1) (n - 1)) = ((if n = 0 then position else _ : Nat) : Int)
    rw [if_neg (by omega)]
    omega
  | back =>
    change max 0 (min ((position : Int) - 1) (n - 1)) = ((position - 1 : Nat) : Int)
    omega
  | jump i =>
    change (if i < n then (i : Int) else position) = ((if i < n then i else position : Nat) : Int)
    split <;> rfl
  | reset => rfl

theorem Within.run_moves (h : c.Within) (hne : c.steps ≠ []) (ms : List Move) :
    (c.run (ms.map .move)).trace? = c.trace? ∧
      ((c.run (ms.map .move)).position : Int) = ms.foldl (count c.steps.length) c.position := by
  induction ms generalizing c with
  | nil => exact ⟨rfl, rfl⟩
  | cons m ms ih =>
    have hsteps := c.steps_move m
    obtain ⟨htrace, hposition⟩ := ih (h.move m) (hsteps ▸ hne)
    have hsame : (c.move m).2.trace? = c.trace? := by rw [move_snd]
    refine ⟨htrace.trans hsame, hposition.trans ?_⟩
    rw [hsteps, move_snd, List.foldl_cons, count_eq (h.position_lt hne)]

/-! Machine words do not wrap around -/

section

variable {length position : UInt64} (h : c.Within) (hlength : length.toNat = c.steps.length)
  (hposition : position.toNat = c.position)

include h hlength hposition

theorem Within.toNat_next : (position + 1).toNat = c.position + 1 := by
  have hword := length.toNat_lt
  have hone : (1 : UInt64).toNat = 1 := rfl
  unfold Within at h
  rw [UInt64.toNat_add, hposition, hone]
  exact Nat.mod_eq_of_lt (by omega)

theorem Within.atEndWord_eq : atEndWord length position = c.isAtEnd := by
  unfold atEndWord isAtEnd
  rw [decide_eq_decide, UInt64.le_iff_toNat_le, hlength, Within.toNat_next h hlength hposition]

theorem Within.forwardWord_eq : (forwardWord length position).toNat = c.forward.2.position := by
  have hnext := Within.toNat_next h hlength hposition
  have hone : (1 : UInt64).toNat = 1 := rfl
  have hmoved := congrArg Cursor.position (c.move_snd .forward)
  change c.forward.2.position = if c.steps.length = 0 then c.position else _ at hmoved
  have hzero : length = 0 ↔ c.steps.length = 0 := by
    rw [← UInt64.toNat_inj, hlength]
    rfl
  rw [hmoved]
  unfold forwardWord
  split
  · rename_i hempty
    rw [if_pos (hzero.1 hempty), hposition]
  · rename_i hsteps
    have hpos : c.steps.length ≠ 0 := fun hnil => hsteps (hzero.2 hnil)
    have hlast : (length - 1).toNat = c.steps.length - 1 := by
      rw [UInt64.toNat_sub_of_le _ _ (by rw [UInt64.le_iff_toNat_le, hlength, hone]; omega), hlength, hone]
    change (if position + 1 ≤ length - 1 then position + 1 else length - 1).toNat = _
    rw [if_neg hpos, Nat.min_def, ← hnext, ← hlast, apply_ite UInt64.toNat]
    simp only [UInt64.le_iff_toNat_le]

end

theorem backWord_eq {position : UInt64} (hposition : position.toNat = c.position) :
    (backWord position).toNat = c.back.2.position := by
  have hone : (1 : UInt64).toNat = 1 := rfl
  change _ = c.position - 1
  unfold backWord
  split
  · rename_i hzero
    rw [hzero] at hposition
    rw [← hposition]
    rfl
  · rename_i hne
    have hpos : position.toNat ≠ 0 := fun hzero => hne (UInt64.toNat_inj.1 hzero)
    rw [UInt64.toNat_sub_of_le _ _ (by rw [UInt64.le_iff_toNat_le, hone]; omega), hposition, hone]

/-! Every history -/

/-- A move gives the step that it leads to, unless it is a reset or leads out of the trace. -/
theorem move_fst (c : Cursor) {m : Move} (hreset : m ≠ .reset) (hjump : ∀ i, m = .jump i → i < c.steps.length) :
    (c.move m).1 = (c.move m).2.current? := by
  cases m with
  | forward =>
    change c.forward.1 = c.forward.2.current?
    unfold forward
    split
    · rename_i hempty
      exact (current?_of_nil (List.isEmpty_iff.1 hempty)).symm
    · rfl
  | back => rfl
  | jump i =>
    change (c.jump i).1 = (c.jump i).2.current?
    unfold jump
    rw [if_pos (hjump i rfl)]
  | reset => exact absurd rfl hreset

/-- Whatever was loaded and however the cursor was moved: it stands at a step of its trace if there is one, and else at
zero. A load goes to the start of the new trace, or leaves none. On a trace with steps the position goes with a counter
that stops at both ends. A jump out of the trace gives nothing and changes nothing, and every other move gives the step
that it leads to. The end is where a step forward leads nowhere. Words that wrap around give the same positions. -/
theorem replay_in_step_with_counter {c : Cursor} {acts : List Act} (h : empty.run acts = c) :
    (c.steps = [] → c.position = 0 ∧ c.current? = none) ∧
    (c.steps ≠ [] → ∃ hlt : c.position < c.steps.length, c.current? = some c.steps[c.position]) ∧
    (∀ t, c.load (.ok t) = ⟨some t, 0⟩) ∧ (∀ e, c.load (.error e) = ⟨none, 0⟩) ∧
    (c.steps ≠ [] → ∀ ms : List Move, (c.run (ms.map .move)).trace? = c.trace? ∧
      ((c.run (ms.map .move)).position : Int) = ms.foldl (count c.steps.length) c.position) ∧
    (∀ i, c.steps.length ≤ i → c.jump i = (none, c)) ∧
    (∀ m, m ≠ .reset → (∀ i, m = .jump i → i < c.steps.length) → (c.move m).1 = (c.move m).2.current?) ∧
    (c.isAtEnd = true ↔ c.forward.2.position = c.position) ∧
    (∀ length position : UInt64, length.toNat = c.steps.length → position.toNat = c.position →
      (forwardWord length position).toNat = c.forward.2.position ∧ (backWord position).toNat = c.back.2.position ∧
        atEndWord length position = c.isAtEnd) := by
  have hwithin : c.Within := h ▸ within_empty.run acts
  refine ⟨fun hnil => ⟨hwithin.position_eq_zero hnil, current?_of_nil hnil⟩, fun hne => ?_, fun _ => rfl, fun _ => rfl,
    hwithin.run_moves, fun _ => jump_of_le, fun _ => c.move_fst, hwithin.isAtEnd_iff, ?_⟩
  · have hlt := hwithin.position_lt hne
    exact ⟨hlt, List.getElem?_eq_getElem hlt⟩
  · intro length position hlength hposition
    exact ⟨hwithin.forwardWord_eq hlength hposition, backWord_eq hposition, hwithin.atEndWord_eq hlength hposition⟩

/-- A trace of so many steps that show nothing. -/
def blankTrace (count : Nat) : Trace :=
  ⟨true, (List.range count).map fun i => ⟨.ofNat i, .ofNat i, 0, .empty, .ofList [], ""⟩, "", none, none, false⟩

/-- Three steps forward of three steps stop at the last one. A jump out of the trace stays there. -/
theorem replay_in_step_with_counter_past_end :
    ∃ c, empty.run [.load (.error .environmentNotReady), .load (.ok (blankTrace 3))] = c ∧ c.steps ≠ [] ∧
      (c.run ([Move.forward, .forward, .forward, .jump 7].map .move)).position = 2 ∧
      (c.run ([Move.back, .jump 1].map .move)).position = 1 := by
  have hrun : empty.run [.load (.error .environmentNotReady), .load (.ok (blankTrace 3))] = ⟨some (blankTrace 3), 0⟩ :=
    rfl
  have hne : (⟨some (blankTrace 3), 0⟩ : Cursor).steps ≠ [] := by decide
  obtain ⟨_, _, _, _, hcount, _⟩ := replay_in_step_with_counter hrun
  have hend := (hcount hne [.forward, .forward, .forward, .jump 7]).2
  have hback := (hcount hne [.back, .jump 1]).2
  refine ⟨_, hrun, hne, Int.ofNat_inj.1 (hend.trans ?_), Int.ofNat_inj.1 (hback.trans ?_)⟩
  · decide
  · decide

end ScriptBench.Cursor
