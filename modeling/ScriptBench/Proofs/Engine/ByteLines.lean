import ScriptBench.Proofs.Engine.Queue

/-! Bytes in lines. Any bytes are split in one way into lines, each of which ends with a feed. -/
namespace ScriptBench

/-- The lines of bytes. A feed ends a line, and one return before it is dropped. What stands behind the last feed is a
line if it is not empty. -/
inductive Lined : List UInt8 → List (List UInt8) → Prop
  | nil : Lined [] []
  | last {line : List UInt8} (hfeed : 10 ∉ line) (hne : line ≠ []) : Lined line [line]
  | feed {line rest : List UInt8} {lines : List (List UInt8)} (hfeed : 10 ∉ line) (hmore : Lined rest lines) :
      Lined (line ++ 10 :: rest) (dropReturn line :: lines)

theorem append_feed_inj {a b rest rest' : List UInt8} (ha : 10 ∉ a) (hb : 10 ∉ b)
    (h : a ++ 10 :: rest = b ++ 10 :: rest') : a = b ∧ rest = rest' := by
  have hsplit : ∀ {line : List UInt8} (rest : List UInt8), 10 ∉ line →
      splitLine (line ++ 10 :: rest) = some (line, rest) := by
    intro line rest hline
    rw [splitLine_append_of_not_mem hline, splitLine, if_pos rfl, Option.map_some, List.append_nil]
  have heq := hsplit rest ha
  rw [h, hsplit rest' hb] at heq
  cases heq
  exact ⟨rfl, rfl⟩

theorem Lined.unique {bytes : List UInt8} {lines lines' : List (List UInt8)} (h : Lined bytes lines)
    (h' : Lined bytes lines') : lines' = lines := by
  induction h generalizing lines' with
  | nil =>
    generalize hbytes : ([] : List UInt8) = bytes at h'
    cases h' with
    | nil => rfl
    | last _ hne => exact absurd hbytes.symm hne
    | feed => exact absurd hbytes.symm (by simp)
  | @last line hfeed hne =>
    generalize hbytes : line = bytes at h'
    cases h' with
    | nil => exact absurd hbytes hne
    | last => rfl
    | feed => exact absurd (hbytes ▸ by simp) hfeed
  | @feed line rest lines hfeed _ ih =>
    generalize hbytes : line ++ 10 :: rest = bytes at h'
    cases h' with
    | nil => exact absurd hbytes (by simp)
    | last hfeed' => exact absurd (hbytes ▸ by simp) hfeed'
    | feed hfeed' hmore' =>
      obtain ⟨rfl, rfl⟩ := append_feed_inj hfeed hfeed' hbytes
      rw [ih hmore']

theorem exists_lined (bytes : List UInt8) : ∃ lines, Lined bytes lines := by
  induction hn : bytes.length using Nat.strongRecOn generalizing bytes with
  | ind n ih =>
    by_cases h : 10 ∈ bytes
    · obtain ⟨line, rest, rfl, hline⟩ := List.eq_append_cons_of_mem h
      obtain ⟨lines, hmore⟩ := ih rest.length (by simp at hn; omega) rest rfl
      exact ⟨_, .feed hline hmore⟩
    · by_cases hne : bytes = []
      · exact ⟨[], hne ▸ .nil⟩
      · exact ⟨[bytes], .last h hne⟩

end ScriptBench
