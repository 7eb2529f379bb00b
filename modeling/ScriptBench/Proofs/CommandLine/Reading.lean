import ScriptBench.CommandLine.Command
import ScriptBench.Proofs.Json.Record

/-! How a command line is read, level by level. What was found at a level has passed the check of its key: an argument
that does not pass it is refused, and never left out. -/
namespace ScriptBench.CommandLine

open Json (bind_eq_ok)

namespace Scan

variable {s t : Scan} {k : Key} {l : Level}

def Checked (s : Scan) : Prop := ∀ e ∈ s.found, e.1.check e.2 = .ok ()

theorem checked_start : start.Checked := by
  intro e he
  cases he

/-- Only what was found counts, not what is pending. -/
theorem Checked.of_found (h : s.Checked) (hfound : t.found = s.found) : t.Checked := by
  intro e he
  rw [hfound] at he
  exact h e he

theorem Checked.take {value : String} (h : s.Checked) (ht : s.take k value = .ok t) : t.Checked := by
  unfold Scan.take at ht
  split at ht
  · cases ht
  · obtain ⟨_, hcheck, ht⟩ := bind_eq_ok.1 ht
    cases ht
    intro e he
    rcases List.mem_append.1 he with hold | hnew
    · exact h e hold
    · rw [List.mem_singleton.1 hnew]
      exact hcheck

theorem Checked.settle (h : s.Checked) (ht : s.settle = .ok t) : t.Checked := by
  unfold Scan.settle at ht
  split at ht
  · cases ht
    exact h
  · cases ht
  · have hs : Checked { s with pending := none } := h.of_found rfl
    exact hs.take ht

theorem Checked.react (h : s.Checked) (ht : s.react k = .ok t) : t.Checked := by
  unfold Scan.react at ht
  obtain ⟨u, hu, ht⟩ := bind_eq_ok.1 ht
  have hsettled := h.settle hu
  split at ht
  · cases ht
  · cases ht
  · obtain ⟨v, hv, ht⟩ := bind_eq_ok.1 ht
    cases ht
    have htaken := hsettled.take hv
    exact htaken.of_found rfl

theorem Checked.reactAll {letters : List Char} (h : s.Checked) (ht : s.reactAll l letters = .ok t) : t.Checked := by
  induction letters generalizing s with
  | nil =>
    cases ht
    exact h
  | cons c letters ih =>
    unfold Scan.reactAll at ht
    split at ht
    · obtain ⟨u, hu, ht⟩ := bind_eq_ok.1 ht
      have hreacted := h.react hu
      exact ih hreacted ht
    · cases ht

theorem Checked.takeLong {name : List Char} {value? : Option String} (h : s.Checked)
    (ht : s.takeLong l name value? = .ok t) : t.Checked := by
  unfold Scan.takeLong at ht
  split at ht
  · cases ht
  · split at ht
    · obtain ⟨u, hu, ht⟩ := bind_eq_ok.1 ht
      cases ht
      have hsettled := h.settle hu
      exact hsettled.of_found rfl
    · exact h.react ht
  · split at ht
    · obtain ⟨u, hu, ht⟩ := bind_eq_ok.1 ht
      obtain ⟨v, hv, ht⟩ := bind_eq_ok.1 ht
      cases ht
      have htaken := (h.settle hu).take hv
      exact htaken.of_found rfl
    · cases ht

theorem Checked.takeValue {value : String} (h : s.Checked) (ht : s.takeValue l value = .ok t) : t.Checked := by
  unfold Scan.takeValue at ht
  split at ht
  · cases ht
    exact h.of_found rfl
  · split at ht
    · obtain ⟨u, hu, ht⟩ := bind_eq_ok.1 ht
      cases ht
      have hsettled := h.settle hu
      exact hsettled.of_found rfl
    · split at ht
      · cases ht
      · cases ht

theorem Checked.takeArgument {argument : String} (h : s.Checked) (ht : s.takeArgument l argument = .ok t) :
    t.Checked := by
  unfold Scan.takeArgument at ht
  split at ht
  · exact h.takeValue ht
  · split at ht
    · cases ht
      exact h.of_found rfl
    · split at ht
      · exact h.takeLong ht
      · exact h.takeLong ht
    · exact h.reactAll ht
    · exact h.takeValue ht

end Scan

theorem checked_of_scan {l : Level} {s t : Scan} {arguments : List String} {more : Option (Level × List String)}
    (hs : s.Checked) (h : scan l s arguments = .ok (t, more)) : t.Checked := by
  induction arguments generalizing s with
  | nil =>
    cases h
    exact hs
  | cons argument arguments ih =>
    unfold scan at h
    split at h
    · cases h
    · split at h
      · cases h
        exact hs
      · split at h
        · rename_i htaken
          exact ih (hs.takeArgument htaken) h
        · cases h

section

variable {l m : Level} {arguments rest : List String} {s : Scan}

/-- What is read at a level is told by what the scan of the level comes to. -/
theorem read_eq (l : Level) (arguments : List String) :
    read l arguments = match scan l .start arguments with
      | .error e => .error e
      | .ok (s, none) => do
        let s ← s.settle
        validate l s false
        return [(l, s)]
      | .ok (s, some (m, rest)) => do
        let more ← read m rest
        let s ← s.settle
        validate l s true
        return (l, s) :: more := by
  rw [read]
  split
  all_goals
    rename_i hscan
    rw [hscan]

theorem read_of_scan_error {e : UsageError} (h : scan l .start arguments = .error e) : read l arguments = .error e := by
  rw [read_eq, h]

theorem read_of_scan_end (h : scan l .start arguments = .ok (s, none)) :
    read l arguments = do
      let s ← s.settle
      validate l s false
      return [(l, s)] := by
  rw [read_eq, h]

theorem read_of_scan_below (h : scan l .start arguments = .ok (s, some (m, rest))) :
    read l arguments = do
      let more ← read m rest
      let s ← s.settle
      validate l s true
      return (l, s) :: more := by
  rw [read_eq, h]

end

/-- Whatever was found at any level of a command line has passed its check. -/
theorem checked_of_read {l : Level} {arguments : List String} {scans : List (Level × Scan)}
    (h : read l arguments = .ok scans) : ∀ p ∈ scans, p.2.Checked := by
  induction l, arguments using read.induct generalizing scans with
  | case1 l arguments e hscan =>
    rw [read_of_scan_error hscan] at h
    cases h
  | case2 l arguments s hscan =>
    rw [read_of_scan_end hscan] at h
    obtain ⟨t, hsettle, h⟩ := bind_eq_ok.1 h
    obtain ⟨_, _, h⟩ := bind_eq_ok.1 h
    cases h
    have hscanned := checked_of_scan Scan.checked_start hscan
    intro p hp
    rw [List.mem_singleton.1 hp]
    exact hscanned.settle hsettle
  | case3 l arguments s m rest hscan ih =>
    rw [read_of_scan_below hscan] at h
    obtain ⟨more, hmore, h⟩ := bind_eq_ok.1 h
    obtain ⟨t, hsettle, h⟩ := bind_eq_ok.1 h
    obtain ⟨_, _, h⟩ := bind_eq_ok.1 h
    cases h
    have hscanned := checked_of_scan Scan.checked_start hscan
    intro p hp
    rcases List.mem_cons.1 hp with hhere | hbelow
    · rw [hhere]
      exact hscanned.settle hsettle
    · exact ih hmore p hbelow

/-- An argument that counts was found somewhere. -/
theorem exists_of_value? {scans : List (Level × Scan)} {k : Key} {text : String} (h : value? scans k = some text) :
    ∃ p ∈ scans, (k, text) ∈ p.2.found := by
  obtain ⟨s, hs, hlookup⟩ := Option.bind_eq_some_iff.1 h
  have hholder : s ∈ holders scans k := List.mem_of_head? hs
  unfold holders at hholder
  obtain ⟨p, hp, hps⟩ := List.mem_map.1 (List.mem_filter.1 hholder).1
  have hfound : (k, text) ∈ s.found := by
    obtain ⟨before, after, hsplit, _⟩ := List.lookup_eq_some_iff.1 hlookup
    rw [hsplit]
    simp
  refine ⟨p, List.mem_reverse.1 hp, ?_⟩
  rw [hps]
  exact hfound

theorem check_of_value? {l : Level} {arguments : List String} {scans : List (Level × Scan)} {k : Key} {text : String}
    (h : read l arguments = .ok scans) (hvalue : value? scans k = some text) : k.check text = .ok () := by
  obtain ⟨p, hp, hfound⟩ := exists_of_value? hvalue
  exact checked_of_read h p hp (k, text) hfound

end ScriptBench.CommandLine
