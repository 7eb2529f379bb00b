import Mathlib.Algebra.Group.Nat.Defs
import ScriptBench.Program
import ScriptBench.Proofs.CommandLine.Reading

/-! The limits of a call: its time budget, the number of recorded steps, and the time to start an interpreter. The
command line goes before the settings, and a text that denotes no number counts for nothing. -/
namespace ScriptBench

namespace Settings

/-! Numbers -/

/-- The value of digits, each times the power of ten of its place. -/
def placeValue : List Char → Nat
  | [] => 0
  | c :: rest => (c.toNat - '0'.toNat) * 10 ^ rest.length + placeValue rest

/-- A text denotes the value of its digits, if that has 64 bits. A plus sign may stand in front, and nothing else. -/
inductive Denotes : List Char → Nat → Prop
  | digits {sign digits : List Char} (hsign : sign = [] ∨ sign = ['+']) (hne : digits ≠ [])
      (hdigits : ∀ c ∈ digits, '0'.toNat ≤ c.toNat ∧ c.toNat ≤ '9'.toNat) (hfits : placeValue digits < 2 ^ 64) :
      Denotes (sign ++ digits) (placeValue digits)

/-- Digits that were taken from the left have the value of their places. -/
theorem ofDigitChars_eq (digits : List Char) (n : Nat) :
    Nat.ofDigitChars 10 digits n = n * 10 ^ digits.length + placeValue digits := by
  induction digits generalizing n with
  | nil => simp [placeValue]
  | cons c digits ih =>
    rw [Nat.ofDigitChars_cons, ih, placeValue, List.length_cons, Nat.pow_succ, Nat.add_mul, Nat.add_assoc,
      Nat.mul_comm 10 n, Nat.mul_assoc, Nat.mul_comm 10 (10 ^ digits.length)]

/-- The number of a text without a sign. -/
def unsigned? (digits : List Char) : Option Nat :=
  if digits.isEmpty || !digits.all Char.isDigit then none
  else if placeValue digits < UInt64.size then some (placeValue digits) else none

theorem denoted?_plus (digits : List Char) : denoted? ('+' :: digits) = unsigned? digits := by
  have hvalue : Nat.ofDigitChars 10 digits 0 = placeValue digits := by
    rw [ofDigitChars_eq, Nat.zero_mul, Nat.zero_add]
  rw [unsigned?, ← hvalue]
  rfl

theorem denoted?_of_no_plus {text : List Char} (h : text.head? ≠ some '+') : denoted? text = unsigned? text := by
  have hvalue : Nat.ofDigitChars 10 text 0 = placeValue text := by
    rw [ofDigitChars_eq, Nat.zero_mul, Nat.zero_add]
  unfold denoted?
  split
  · exact absurd rfl h
  · rw [unsigned?, ← hvalue]
    rfl

theorem unsigned?_eq_some_iff {digits : List Char} {n : Nat} :
    unsigned? digits = some n ↔ digits ≠ [] ∧ (∀ c ∈ digits, '0'.toNat ≤ c.toNat ∧ c.toNat ≤ '9'.toNat) ∧
      placeValue digits < 2 ^ 64 ∧ placeValue digits = n := by
  have hsize : UInt64.size = 2 ^ 64 := rfl
  have hall : digits.all Char.isDigit = true ↔ ∀ c ∈ digits, '0'.toNat ≤ c.toNat ∧ c.toNat ≤ '9'.toNat := by
    simp only [List.all_eq_true, Char.isDigit_iff_toNat]
  rw [unsigned?, hsize, ← hall]
  cases digits.all Char.isDigit <;> simp

theorem denoted?_eq_some_iff {text : List Char} {n : Nat} : denoted? text = some n ↔ Denotes text n := by
  constructor
  · intro h
    by_cases hplus : text.head? = some '+'
    · obtain ⟨digits, rfl⟩ := List.head?_eq_some_iff.1 hplus
      rw [denoted?_plus] at h
      obtain ⟨hne, hdigits, hfits, rfl⟩ := unsigned?_eq_some_iff.1 h
      exact .digits (.inr rfl) hne hdigits hfits
    · rw [denoted?_of_no_plus hplus] at h
      obtain ⟨hne, hdigits, hfits, rfl⟩ := unsigned?_eq_some_iff.1 h
      exact .digits (.inl rfl) hne hdigits hfits
  · rintro ⟨hsign, hne, hdigits, hfits⟩
    rename_i digits
    have hunsigned : unsigned? digits = some (placeValue digits) :=
      unsigned?_eq_some_iff.2 ⟨hne, hdigits, hfits, rfl⟩
    rcases hsign with rfl | rfl
    · have hplus : digits.head? ≠ some '+' := by
        intro hhead
        have hrange := hdigits '+' (List.mem_of_head? hhead)
        exact absurd hrange.1 (by decide)
      rw [List.nil_append, denoted?_of_no_plus hplus]
      exact hunsigned
    · rw [List.singleton_append, denoted?_plus]
      exact hunsigned

example : denoted? "+0018446744073709551615".toList = some (2 ^ 64 - 1) ∧ denoted? "18446744073709551616".toList = none := by
  decide +kernel

/-! Which number counts -/

/-- The number that counts: the one that is asked for, else the one that the stored text denotes, else a fallback. -/
inductive Effective (asked : Option Nat) (stored : Option String) (fallback : Nat) : Nat → Prop
  | asked {n : Nat} (h : asked = some n) : Effective asked stored fallback n
  | stored {text : String} {n : Nat} (h : asked = none) (htext : stored = some text) (hn : Denotes text.toList n) :
      Effective asked stored fallback n
  | fallback (h : asked = none) (hnone : ∀ text n, stored = some text → ¬Denotes text.toList n) :
      Effective asked stored fallback fallback

theorem effective_iff {s : Settings} {name : String} {asked : Option Nat} {fallback n : Nat} :
    Effective asked (s.get? name) fallback n ↔ asked.getD ((s.getNumber? name).getD fallback) = n := by
  cases asked with
  | some m =>
    constructor
    · intro h
      cases h with
      | asked h => exact Option.some.inj h
      | stored h => cases h
      | fallback h => cases h
    · rintro rfl
      exact .asked rfl
  | none =>
    rw [Option.getD_none]
    cases hnumber : s.getNumber? name with
    | some m =>
      obtain ⟨text, htext, hm⟩ := Option.bind_eq_some_iff.1 hnumber
      have hdenotes := denoted?_eq_some_iff.1 hm
      constructor
      · intro h
        cases h with
        | asked h => cases h
        | stored _ htext' hn =>
          rw [htext] at htext'
          cases htext'
          rw [denoted?_eq_some_iff.2 hn] at hm
          exact (Option.some.inj hm).symm
        | fallback _ hnone => exact absurd hdenotes (hnone text m htext)
      · rintro rfl
        exact .stored rfl htext hdenotes
    | none =>
      have hnone : ∀ text n, s.get? name = some text → ¬Denotes text.toList n := by
        intro text n htext hn
        have hsome : s.getNumber? name = some n :=
          Option.bind_eq_some_iff.2 ⟨text, htext, denoted?_eq_some_iff.2 hn⟩
        rw [hnumber] at hsome
        cases hsome
      constructor
      · intro h
        cases h with
        | asked h => cases h
        | stored _ htext hn => exact absurd hn (hnone _ _ htext)
        | fallback => rfl
      · rintro rfl
        exact .fallback rfl hnone

end Settings

open Settings (Denotes Effective denoted?_eq_some_iff effective_iff)
open CommandLine (Key number? value?)

theorem isSome_of_check {k : Key} {text : String} (hk : k = .timeoutMs ∨ k = .maxSteps)
    (h : k.check text = .ok ()) : (Settings.denoted? text.toList).isSome = true := by
  have hcheck : Key.check .timeoutMs text = .ok () := by
    rcases hk with rfl | rfl
    · exact h
    · exact h
  unfold Key.check at hcheck
  dsimp only at hcheck
  split at hcheck
  · assumption
  · cases hcheck

/-- A text that the command line gives for a number denotes one, and that is the number asked for. -/
theorem number?_of_read {arguments : List String} {scans : List (CommandLine.Level × CommandLine.Scan)} {k : Key}
    {text : String} (h : CommandLine.read .root arguments = .ok scans) (hk : k = .timeoutMs ∨ k = .maxSteps)
    (hvalue : value? scans k = some text) : ∃ n, Denotes text.toList n ∧ number? scans k = some n := by
  have hsome := isSome_of_check hk (CommandLine.check_of_value? h hvalue)
  obtain ⟨n, hn⟩ := Option.isSome_iff_exists.1 hsome
  exact ⟨n, denoted?_eq_some_iff.1 hn, Option.bind_eq_some_iff.2 ⟨text, hvalue, hn⟩⟩

theorem budget?_eq_some_iff {m n : Nat} : Settings.budget? m = some n ↔ n ≠ 0 ∧ m = n := by
  unfold Settings.budget?
  split
  · constructor
    · intro h
      cases h
    · rintro ⟨hne, rfl⟩
      contradiction
  · constructor
    · intro h
      cases h
      constructor
      · assumption
      · rfl
    · rintro ⟨_, rfl⟩
      rfl

theorem budget?_eq_none_iff {m : Nat} : Settings.budget? m = none ↔ m = 0 := by
  unfold Settings.budget?
  split <;> simp [*]

theorem timeout?_eq (s : Settings) (asked : Option Nat) :
    (optionsFor s asked).timeout? = Settings.budget? (asked.getD ((s.getNumber? "PYRUNNER_TIMEOUT_MS").getD 5000)) := by
  cases asked <;> rfl

/-- For all settings, whatever text is stored under a name, and for any number that is asked for or none: a call has
the budget that counts, where zero is none, as many steps are recorded as count, and an interpreter has the time that
counts to start. What the command line asks for is the number that its text denotes. -/
theorem limits_effective :
    (∀ (s : Settings) (asked : Option Nat) (n : Nat), (optionsFor s asked).timeout? = some n ↔
      n ≠ 0 ∧ Effective asked (s.get? "PYRUNNER_TIMEOUT_MS") 5000 n) ∧
    (∀ (s : Settings) (asked : Option Nat), (optionsFor s asked).timeout? = none ↔
      Effective asked (s.get? "PYRUNNER_TIMEOUT_MS") 5000 0) ∧
    (∀ (s : Settings) (asked : Option Nat) (n : Nat), stepLimit s asked = n ↔
      Effective asked (s.get? "PYRUNNER_MAX_TRACE_STEPS") 1000 n) ∧
    (∀ (s : Settings) (p : Places) (n : Nat), (s.engine p).startupBudget = n ↔
      Effective none (s.get? "PYRUNNER_STARTUP_TIMEOUT_MS") 15000 n) ∧
    ∀ (arguments : List String) (scans : List (CommandLine.Level × CommandLine.Scan)) (k : Key) (text : String),
      CommandLine.read .root arguments = .ok scans → k = .timeoutMs ∨ k = .maxSteps →
      value? scans k = some text → ∃ n, Denotes text.toList n ∧ number? scans k = some n := by
  refine ⟨fun s asked n => ?_, fun s asked => ?_, fun s asked n => ?_, fun s p n => ?_, ?_⟩
  · rw [timeout?_eq, effective_iff]
    exact budget?_eq_some_iff
  · rw [timeout?_eq, effective_iff]
    exact budget?_eq_none_iff
  · rw [effective_iff]
    rfl
  · rw [effective_iff]
    rfl
  · intro arguments scans k text
    exact number?_of_read

end ScriptBench
