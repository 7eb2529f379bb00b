import ScriptBench.Proofs.Json.Printed
import ScriptBench.Proofs.Json.Reading
import ScriptBench.Proofs.Markers.Stream

/-! A block at the end of an output. It is the one that counts, whatever was printed before it. -/
namespace ScriptBench

open Json Text

namespace Markers

variable {m : Markers} {α : Type} {read : String → Except Json.ReadError α} {a : α}

/-- The bodies at the end of an output are the last ones. -/
theorem exists_bodies_append (front rest : List (List Char)) :
    ∃ earlier, m.bodies (front ++ rest) = earlier ++ m.bodies rest := by
  induction front with
  | nil => exact ⟨[], rfl⟩
  | cons line front ih =>
    obtain ⟨earlier, hearlier⟩ := ih
    refine ⟨(if m.isStart line then (m.body? (front ++ rest)).toList else []) ++ earlier, ?_⟩
    rw [List.cons_append, bodies, hearlier, List.append_assoc]

theorem decode_of_last {before payload : String} (hm : m.Proper) (hbefore : EndsLine before)
    (hline : '\n' ∉ payload.toList) (hreturn : payload.toList.getLast? ≠ some '\r')
    (hfree : m.isStart payload.toList = false ∧ m.isStop payload.toList = false) (hread : read payload = .ok a) :
    m.decode read (before ++ m.wrap payload) = .ok a := by
  have hpayload : lines (payload.toList ++ ['\n']) = [payload.toList] := by
    have hlines := lines_append_feed hline []
    rwa [lines_nil, trimReturn, if_neg hreturn] at hlines
  have hwrap := lines_wrap hm payload []
  rw [List.append_nil, hpayload, lines_nil] at hwrap
  have hlast : m.bodies (lines (m.wrap payload).toList) = [[payload.toList]] := by
    rw [hwrap, bodies_block hm]
    · rfl
    · intro line hmem
      rw [List.mem_singleton.1 hmem]
      exact hfree
  obtain ⟨earlier, hbodies⟩ := @exists_bodies_append m (lines before.toList) (lines (m.wrap payload).toList)
  rw [hlast] at hbodies
  have hbody : read (String.ofList (unlines [payload.toList])) = .ok a := by
    rw [unlines, String.ofList_toList, hread]
  unfold decode
  rw [String.toList_append, lines_append_of_endsLine hbefore, hbodies]
  simp only [List.map_append, List.map_cons, List.map_nil, List.reverse_append, List.reverse_cons, List.reverse_nil,
    List.nil_append, List.cons_append, List.findSome?_cons, hbody]
  rfl

/-- A line that begins otherwise than a marker is none. -/
theorem dropReturns_ne {line marker : List Char} {c d : Char} {more rest : List Char} (hline : line = c :: more)
    (hmarker : marker = d :: rest) (hne : c ≠ d) : (dropReturns line == marker) = false := by
  refine beq_eq_false_iff_ne.2 fun heq => ?_
  have hprefix : dropReturns line <+: line := by
    have hsuffix := List.dropWhile_suffix (· == '\r') (l := line.reverse)
    have hreverse := List.reverse_prefix.2 hsuffix
    rwa [List.reverse_reverse] at hreverse
  obtain ⟨returns, hreturns⟩ := hprefix
  rw [heq, hmarker, hline, List.cons_append] at hreturns
  injection hreturns with hhead
  exact hne hhead.symm

/-- The last block counts if its payload is an object on one line that can be read. -/
theorem decode_of_object (hm : m = .trace ∨ m = .test) {item : Reader α} {members : List (String × Value)}
    {before payload : String} (hbefore : EndsLine before) (hline : '\n' ∉ payload.toList)
    (hpayload : Spells (.object members) payload.toList) (htakes : Takes item (.object members) a) :
    m.decode (parse item) (before ++ m.wrap payload) = .ok a := by
  have hread := parse_of_takes htakes hpayload
  generalize hchars : payload.toList = chars at hpayload
  cases hpayload with
  | @object _ parts body hparts hbody =>
    refine decode_of_last (proper_of_consumer hm) hbefore hline ?_ ?_ hread
    · rw [hchars, List.getLast?_cons, List.getLast?_concat]
      decide
    · rcases hm with rfl | rfl
      · exact ⟨dropReturns_ne hchars rfl (by decide), dropReturns_ne hchars rfl (by decide)⟩
      · exact ⟨dropReturns_ne hchars rfl (by decide), dropReturns_ne hchars rfl (by decide)⟩

/-- An output ends with an object: its last block holds the members of the object, in any order and in any text on
one line. What stands in front of the block is anything that ends with a line. -/
def EndsWith (m : Markers) (members : List (String × Value)) (stdout : String) : Prop :=
  ∃ (before payload : String) (ms : List (String × Value)), EndsLine before ∧ stdout = before ++ m.wrap payload ∧
    '\n' ∉ payload.toList ∧ members.Perm ms ∧ Spells (.object ms) payload.toList

theorem decode_of_endsWith (hm : m = .trace ∨ m = .test) {item : Reader α} {members : List (String × Value)}
    {stdout : String} (h : m.EndsWith members stdout)
    (htakes : ∀ ms, members.Perm ms → Takes item (.object ms) a) : m.decode (parse item) stdout = .ok a := by
  obtain ⟨before, payload, ms, hbefore, rfl, hline, hms, hpayload⟩ := h
  exact decode_of_object hm hbefore hline hpayload (htakes ms hms)

theorem endsWith_wrap {members : List (String × Value)} (h : (Value.object members).Printed) {before : String}
    (hbefore : EndsLine before) : m.EndsWith members (before ++ m.wrap (Value.object members).line) :=
  ⟨before, _, members, hbefore, rfl, h.oneLine_line.feed_not_mem, .refl _, h.spells_line⟩

end Markers

end ScriptBench
