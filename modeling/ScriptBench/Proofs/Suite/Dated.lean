import ScriptBench.Proofs.Suite.Saved

/-! Tests that were read from a text are dated by instants of the calendar, so they can be saved and read again. -/
namespace ScriptBench

open Json (bind_eq_ok)

namespace Time

theorem digit_le_nine {c : Char} (h : c.isDigit = true) : digit c ≤ 9 := by
  have hrange : 48 ≤ c.toNat ∧ c.toNat ≤ 57 := by
    simpa [Char.isDigit, UInt32.le_iff_toNat_le] using h
  have hzero : '0'.toNat = 48 := rfl
  unfold digit
  omega

/-- So many digits make a number below the power of ten. -/
theorem numberOf_lt {digits : List Char} (h : ∀ c ∈ digits, c.isDigit = true) :
    numberOf digits < 10 ^ digits.length := by
  have hfrom : ∀ (digits : List Char) (n k : Nat), (∀ c ∈ digits, c.isDigit = true) → n < 10 ^ k →
      digits.foldl (fun n c => 10 * n + digit c) n < 10 ^ (k + digits.length) := by
    intro digits
    induction digits with
    | nil =>
      intro n k _ hn
      exact hn
    | cons c digits ih =>
      intro n k hdigits hn
      have hc := digit_le_nine (hdigits c (by simp))
      have hnext : 10 * n + digit c < 10 ^ (k + 1) := by
        rw [Nat.pow_succ]
        omega
      have hrest := ih (10 * n + digit c) (k + 1) (fun d hd => hdigits d (by simp [hd])) hnext
      rw [List.foldl_cons, List.length_cons, Nat.add_comm digits.length 1, ← Nat.add_assoc]
      exact hrest
  have hstart := hfrom digits 0 0 h (by decide)
  rwa [Nat.zero_add] at hstart

/-- A number of at most so many digits, by how many of them are taken from the text. -/
theorem number_lt {width n : Nat} {text rest : List Char} (h : number (some width) text = .ok (n, rest)) :
    text.length - rest.length ≤ width ∧ n < 10 ^ (text.length - rest.length) := by
  let digits := (text.takeWhile Char.isDigit).take width
  have hread : n = numberOf digits ∧ rest = text.drop digits.length := by
    unfold number at h
    dsimp only at h
    split at h
    · cases h
    · cases h
    · split at h
      · cases h
        exact ⟨rfl, rfl⟩
      · cases h
  obtain ⟨rfl, rfl⟩ := hread
  have hle : digits.length ≤ text.length :=
    ((List.take_prefix width _).trans (List.takeWhile_prefix Char.isDigit)).length_le
  have hcount : text.length - (text.drop digits.length).length = digits.length := by
    rw [List.length_drop]
    omega
  have hdigits : ∀ c ∈ digits, c.isDigit = true := by
    intro c hc
    exact List.all_eq_true.1 List.all_takeWhile c (List.mem_of_mem_take hc)
  rw [hcount]
  exact ⟨List.length_take_le .., numberOf_lt hdigits⟩

theorem fraction_lt {n : Nat} {text rest : List Char} (h : fraction text = .ok (n, rest)) : n < 1000000000 := by
  unfold fraction at h
  split at h
  · rename_i text
    obtain ⟨⟨m, rest₁⟩, hm, h⟩ := bind_eq_ok.1 h
    cases h
    obtain ⟨hwidth, hlt⟩ := number_lt hm
    have hpow : 10 ^ (text.length - rest₁.length) * 10 ^ (9 - (text.length - rest₁.length)) = 1000000000 := by
      rw [← Nat.pow_add, Nat.add_sub_cancel' hwidth]
    calc m * Nat.pow 10 (9 - (text.length - rest₁.length))
        < 10 ^ (text.length - rest₁.length) * 10 ^ (9 - (text.length - rest₁.length)) :=
          Nat.mul_lt_mul_of_pos_right hlt (Nat.pow_pos (by decide))
      _ = 1000000000 := hpow
  · cases h
    decide

theorem part_le {low high n : Nat} {text rest : List Char} (h : part low high text = .ok (n, rest)) : n ≤ high := by
  obtain ⟨⟨m, rest₁⟩, _, h⟩ := bind_eq_ok.1 h
  dsimp only at h
  split at h
  · rename_i hrange
    cases h
    exact hrange.2
  · cases h

namespace Instant

/-- The clock of an offset moved back to UTC shows a minute of the day. -/
theorem fromOffset_fields {t : Instant} {ahead : Int} (hminutes : t.minutes < 1440) (hlo : -1440 < ahead)
    (hhi : ahead < 1440) : (t.fromOffset ahead).minutes < 1440 ∧ (t.fromOffset ahead).second = t.second ∧
      (t.fromOffset ahead).nanosecond = t.nanosecond := by
  unfold fromOffset
  dsimp only
  split
  · refine ⟨?_, rfl, rfl⟩
    dsimp only
    omega
  · split
    · refine ⟨?_, rfl, rfl⟩
      dsimp only
      omega
    · refine ⟨?_, rfl, rfl⟩
      dsimp only
      omega

theorem isValid_of_read {text : List Char} {t : Instant} (h : read text = .ok t) : t.IsValid := by
  obtain ⟨⟨date, text₁⟩, _, h⟩ := bind_eq_ok.1 h
  obtain ⟨text₂, _, h⟩ := bind_eq_ok.1 h
  obtain ⟨⟨hour, text₃⟩, hhour, h⟩ := bind_eq_ok.1 h
  obtain ⟨text₄, _, h⟩ := bind_eq_ok.1 h
  obtain ⟨⟨minute, text₅⟩, hminute, h⟩ := bind_eq_ok.1 h
  obtain ⟨text₆, _, h⟩ := bind_eq_ok.1 h
  obtain ⟨⟨second, text₇⟩, hsecond, h⟩ := bind_eq_ok.1 h
  obtain ⟨⟨nanosecond, text₈⟩, hnanosecond, h⟩ := bind_eq_ok.1 h
  obtain ⟨⟨ahead, text₉⟩, _, h⟩ := bind_eq_ok.1 h
  have hhour' := part_le hhour
  have hminute' := part_le hminute
  have hsecond' := part_le hsecond
  have hnanosecond' := fraction_lt hnanosecond
  have hminutes : hour * 60 + minute < 1440 := by omega
  dsimp only at h
  split at h
  · split at h
    · rename_i hbounds
      obtain ⟨hm, hs, hn⟩ := @fromOffset_fields ⟨date, hour * 60 + minute, second, nanosecond⟩ ahead hminutes
        hbounds.2.1 hbounds.2.2
      split at h
      · rename_i hdate
        cases h
        exact ⟨hdate, hm, hs.symm ▸ hsecond', hn.symm ▸ hnanosecond'⟩
      · cases h
    · cases h
  · cases h

end Instant

end Time

namespace Json

/-- Whatever is read in a list has what holds of all that the reader of its items reads. -/
theorem readMoreElements_all {α : Type} {item : Reader α} {P : α → Prop}
    (hitem : ∀ text a rest, item text = .ok (a, rest) → P a) {fuel : Nat} {text rest : List Char} {as : List α}
    (h : readMoreElements item fuel text = .ok (as, rest)) : ∀ a ∈ as, P a := by
  induction fuel generalizing text as with
  | zero => cases h
  | succ fuel ih =>
    unfold readMoreElements at h
    split at h
    · cases h
    · cases h
      simp
    · split at h
      · cases h
      · cases h
      · obtain ⟨⟨a, rest₁⟩, ha, h⟩ := bind_eq_ok.1 h
        obtain ⟨⟨more, rest₂⟩, hmore, h⟩ := bind_eq_ok.1 h
        cases h
        exact List.forall_mem_cons.2 ⟨hitem _ a rest₁ ha, ih hmore⟩
    · cases h

theorem readElements_all {α : Type} {item : Reader α} {P : α → Prop}
    (hitem : ∀ text a rest, item text = .ok (a, rest) → P a) {text rest : List Char} {as : List α}
    (h : readElements item text = .ok (as, rest)) : ∀ a ∈ as, P a := by
  unfold readElements at h
  split at h
  · cases h
  · cases h
    simp
  · obtain ⟨⟨a, rest₁⟩, ha, h⟩ := bind_eq_ok.1 h
    obtain ⟨⟨more, rest₂⟩, hmore, h⟩ := bind_eq_ok.1 h
    cases h
    exact List.forall_mem_cons.2 ⟨hitem _ a rest₁ ha, readMoreElements_all hitem hmore⟩

theorem readList_all {α : Type} {item : Reader α} {P : α → Prop}
    (hitem : ∀ text a rest, item text = .ok (a, rest) → P a) {text rest : List Char} {as : List α}
    (h : readList item text = .ok (as, rest)) : ∀ a ∈ as, P a := by
  unfold readList at h
  split at h
  · cases h
  · exact readElements_all hitem h
  · cases h

theorem readOption_all {α : Type} {item : Reader α} {P : α → Prop}
    (hitem : ∀ text a rest, item text = .ok (a, rest) → P a) {text rest : List Char} {a? : Option α}
    (h : readOption item text = .ok (a?, rest)) : ∀ a ∈ a?, P a := by
  unfold readOption at h
  split at h
  · obtain ⟨rest₁, _, h⟩ := bind_eq_ok.1 h
    cases h
    exact nofun
  · obtain ⟨⟨a, rest₁⟩, ha, h⟩ := bind_eq_ok.1 h
    cases h
    intro b hb
    cases hb
    exact hitem _ a _ ha

theorem parse_of_readParsed {α : Type} {expected : String} {parse : String → Except String α}
    {text rest : List Char} {a : α} (h : readParsed expected parse text = .ok (a, rest)) : ∃ s, parse s = .ok a := by
  obtain ⟨⟨s, rest₁⟩, _, h⟩ := bind_eq_ok.1 h
  dsimp only at h
  split at h
  · rename_i b hb
    cases h
    exact ⟨s, hb⟩
  · cases h

end Json

namespace Test

theorem isValid_of_readInstant {text rest : List Char} {i : Time.Instant} (h : readInstant text = .ok (i, rest)) :
    i.IsValid := by
  obtain ⟨s, hs⟩ := Json.parse_of_readParsed h
  cases hread : Time.Instant.read s.toList with
  | error e =>
    rw [hread] at hs
    cases hs
  | ok j =>
    rw [hread] at hs
    cases hs
    exact Time.Instant.isValid_of_read hread

/-- No field brings an instant into a draft that is not one of the calendar. -/
theorem slots_keep (slot : Json.Slot Draft) (h : slot ∈ shape.slots) :
    Json.Keeps (fun s => ∀ i ∈ s.lastRun.join, i.IsValid) slot.read := by
  simp only [shape, List.mem_cons, List.not_mem_nil, or_false] at h
  rcases h with rfl | rfl | rfl | rfl | rfl | rfl | rfl
  case inr.inr.inr.inr.inr.inr =>
    refine Json.Slot.optional_keeps fun s _ lastRun _ _ hread => ?_
    exact Json.readOption_all (fun _ _ _ hi => isValid_of_readInstant hi) hread
  all_goals exact Json.Slot.required_keeps fun s _ _ _ hs _ => hs

theorem isDated_of_read {text rest : List Char} {t : Test} (h : shape.read text = .ok (t, rest)) : t.IsDated := by
  have hempty : ∀ i ∈ shape.empty.lastRun.join, Time.Instant.IsValid i := nofun
  obtain ⟨s, hs, hbuild⟩ := Json.Shape.exists_draft_of_read slots_keep hempty h
  obtain ⟨id, _, hbuild⟩ := bind_eq_ok.1 hbuild
  obtain ⟨displayName, _, hbuild⟩ := bind_eq_ok.1 hbuild
  obtain ⟨source, _, hbuild⟩ := bind_eq_ok.1 hbuild
  obtain ⟨status, _, hbuild⟩ := bind_eq_ok.1 hbuild
  obtain ⟨output, _, hbuild⟩ := bind_eq_ok.1 hbuild
  cases hbuild
  exact hs

end Test

theorem isDated_of_readTests {text : String} {tests : List Test} (h : readTests text = .ok tests) :
    ∀ t ∈ tests, t.IsDated := by
  obtain ⟨rest, hread⟩ := Json.read_of_parse h
  exact Json.readList_all (fun _ _ _ ht => Test.isDated_of_read ht) hread

end ScriptBench
