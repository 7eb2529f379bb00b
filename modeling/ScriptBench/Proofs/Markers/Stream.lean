import ScriptBench.Proofs.Json.Record
import ScriptBench.Proofs.Markers.Scan

/-! Streams of ordinary output and blocks. Decoding a stream gives back the payloads that were put into it, and
the output around them does not count. -/
namespace ScriptBench

open Text

/-- A piece of a stream: ordinary output, or a payload that stands in a block of its own. -/
inductive Segment where
  | output (text : String)
  | block (payload : String)
  deriving DecidableEq, Repr

namespace Segment

/-- A piece as it is printed for a consumer. -/
def render (m : Markers) : Segment → String
  | .output text => text
  | .block payload => m.wrap payload

def payload? : Segment → Option String
  | .output _ => none
  | .block payload => some payload

def stream (m : Markers) (segments : List Segment) : String := String.join (segments.map (render m))

def payloads (segments : List Segment) : List String := segments.filterMap payload?

end Segment

namespace Markers

/-- No line of a text is a start line or an end line. -/
def Free (m : Markers) (text : List Char) : Prop :=
  ∀ line ∈ lines text, m.isStart line = false ∧ m.isStop line = false

/-- Two different markers, each of them a line that keeps its end. -/
structure Proper (m : Markers) : Prop where
  start_line : '\n' ∉ m.start.toList ∧ '\r' ∉ m.start.toList ∧ m.start.toList ≠ []
  stop_line : '\n' ∉ m.stop.toList ∧ '\r' ∉ m.stop.toList ∧ m.stop.toList ≠ []
  start_ne_stop : m.start.toList ≠ m.stop.toList

theorem proper_of_consumer {m : Markers} (h : m = .trace ∨ m = .test) : m.Proper := by
  rcases h with rfl | rfl
  · exact ⟨by decide, by decide, by decide⟩
  · exact ⟨by decide, by decide, by decide⟩

theorem dropReturns_of_not_mem {line : List Char} (h : '\r' ∉ line) : dropReturns line = line := by
  cases hrev : line.reverse with
  | nil =>
    rw [List.reverse_eq_nil_iff.1 hrev]
    rfl
  | cons c more =>
    have hc : c ≠ '\r' := by
      rintro rfl
      exact h (List.mem_reverse.1 (by rw [hrev]; simp))
    have hdrop : line.reverse.dropWhile (· == '\r') = line.reverse := by
      rw [hrev, List.dropWhile_cons, if_neg (by simpa using hc)]
    rw [dropReturns, hdrop, List.reverse_reverse]

theorem dropReturns_trimReturn (line : List Char) : dropReturns (trimReturn line) = dropReturns line := by
  unfold trimReturn
  split
  · rename_i hlast
    obtain ⟨front, rfl⟩ := List.getLast?_eq_some_iff.1 hlast
    simp [dropReturns]
  · rfl

section

variable {m : Markers} (hm : m.Proper)

include hm

theorem Proper.isStart_start : m.isStart m.start.toList = true := by
  rw [isStart, dropReturns_of_not_mem hm.start_line.2.1, beq_self_eq_true]

theorem Proper.isStop_stop : m.isStop m.stop.toList = true := by
  rw [isStop, dropReturns_of_not_mem hm.stop_line.2.1, beq_self_eq_true]

theorem Proper.isStart_stop : m.isStart m.stop.toList = false := by
  rw [isStart, dropReturns_of_not_mem hm.stop_line.2.1]
  exact beq_eq_false_iff_ne.2 hm.start_ne_stop.symm

/-- An empty line is no marker. -/
theorem Proper.free_nil : m.isStart [] = false ∧ m.isStop [] = false :=
  ⟨beq_eq_false_iff_ne.2 hm.start_line.2.2.symm, beq_eq_false_iff_ne.2 hm.stop_line.2.2.symm⟩

/-- A feed behind a text makes no marker of its lines. -/
theorem Proper.free_feed {text : List Char} (h : m.Free text) : m.Free (text ++ ['\n']) := by
  induction text using row_induction with
  | last row hrow =>
    intro line hline
    rw [lines_append_feed hrow, lines_nil, List.mem_singleton] at hline
    subst hline
    rw [isStart, isStop, dropReturns_trimReturn, ← isStart, ← isStop]
    by_cases hne : row = []
    · rw [hne]
      exact hm.free_nil
    · exact h row (by rw [lines_of_not_mem hrow hne]; simp)
  | feed row rest hrow ih =>
    have hlines : lines (row ++ '\n' :: rest) = trimReturn row :: lines rest := lines_append_feed hrow rest
    have ih := ih fun line hline => h line (by rw [hlines]; simp [hline])
    intro line hline
    rw [List.append_assoc, List.cons_append, lines_append_feed hrow] at hline
    rcases List.mem_cons.1 hline with rfl | hline
    · exact h _ (by rw [hlines]; simp)
    · exact ih line hline

end

/-! Bodies -/

variable {m : Markers}

theorem bodies_append_of_no_start {front : List (List Char)} (h : ∀ line ∈ front, m.isStart line = false)
    (rest : List (List Char)) : m.bodies (front ++ rest) = m.bodies rest := by
  induction front with
  | nil => rfl
  | cons line front ih =>
    have ih := ih fun other hother => h other (by simp [hother])
    rw [List.cons_append, bodies, h line (by simp), ih]
    rfl

theorem body?_append_stop {body : List (List Char)} {stop : List Char}
    (hbody : ∀ line ∈ body, m.isStop line = false) (hstop : m.isStop stop = true) (rest : List (List Char)) :
    m.body? (body ++ stop :: rest) = some body := by
  induction body with
  | nil => rw [List.nil_append, body?, hstop]; rfl
  | cons line body ih =>
    have ih := ih fun other hother => hbody other (by simp [hother])
    rw [List.cons_append, body?, hbody line (by simp), ih]
    rfl

/-- A block in front of other lines has its own body, and the other lines keep theirs. -/
theorem bodies_block (hm : m.Proper) {body : List (List Char)}
    (hbody : ∀ line ∈ body, m.isStart line = false ∧ m.isStop line = false) (rest : List (List Char)) :
    m.bodies (m.start.toList :: (body ++ m.stop.toList :: rest)) = body :: m.bodies rest := by
  have hskip : m.bodies (m.stop.toList :: rest) = m.bodies rest := by
    rw [bodies, hm.isStart_stop]
    rfl
  rw [bodies, hm.isStart_start, body?_append_stop (fun line hline => (hbody line hline).2) hm.isStop_stop,
    bodies_append_of_no_start fun line hline => (hbody line hline).1, hskip]
  rfl

theorem lines_wrap (hm : m.Proper) (payload : String) (rest : List Char) :
    lines ((m.wrap payload).toList ++ rest) =
      m.start.toList :: (lines (payload.toList ++ ['\n']) ++ m.stop.toList :: lines rest) := by
  have hwrap : (m.wrap payload).toList ++ rest =
      m.start.toList ++ '\n' :: (payload.toList ++ '\n' :: (m.stop.toList ++ '\n' :: rest)) := by
    simp [wrap]
  rw [hwrap, lines_append_feed hm.start_line.1, trimReturn_of_not_mem hm.start_line.2.1,
    lines_append_feed_append, lines_append_feed hm.stop_line.1, trimReturn_of_not_mem hm.stop_line.2.1]

end Markers

namespace Segment

variable {m : Markers}

/-- Ordinary output is empty or ends with a feed and has no marker lines of the consumer. A payload has no
carriage returns and no marker lines either. -/
inductive Fits (m : Markers) : Segment → Prop
  | output {text : String} (hend : text = "" ∨ text.toList.getLast? = some '\n') (hfree : m.Free text.toList) :
    Fits m (.output text)
  | block {payload : String} (hreturn : '\r' ∉ payload.toList) (hfree : m.Free payload.toList) :
    Fits m (.block payload)

theorem stream_cons_toList (s : Segment) (more : List Segment) :
    (stream m (s :: more)).toList = (s.render m).toList ++ (stream m more).toList := by
  simp [stream]

/-- The bodies of a stream are the lines of its payloads. -/
theorem bodies_stream (hm : m.Proper) {segments : List Segment} (h : ∀ s ∈ segments, s.Fits m) :
    m.bodies (lines (stream m segments).toList) =
      (payloads segments).map fun payload => lines (payload.toList ++ ['\n']) := by
  induction segments with
  | nil => rfl
  | cons s more ih =>
    have ih := ih fun other hother => h other (by simp [hother])
    rw [stream_cons_toList]
    cases h s (by simp) with
    | @output text hend hfree =>
      have hpayloads : payloads (.output text :: more) = payloads more := rfl
      rw [hpayloads, ← ih]
      rcases hend with rfl | hlast
      · rfl
      · obtain ⟨front, hfront⟩ := List.getLast?_eq_some_iff.1 hlast
        rw [hfront] at hfree
        rw [render, hfront, List.append_assoc, List.singleton_append, lines_append_feed_append,
          Markers.bodies_append_of_no_start fun line hline => (hfree line hline).1]
    | @block payload hreturn hfree =>
      have hpayloads : payloads (.block payload :: more) = payload :: payloads more := rfl
      rw [render, Markers.lines_wrap hm, Markers.bodies_block hm (hm.free_feed hfree), hpayloads, List.map_cons, ih]

theorem returns_of_mem_payloads {segments : List Segment} (h : ∀ s ∈ segments, s.Fits m) {payload : String}
    (hp : payload ∈ payloads segments) : '\r' ∉ payload.toList := by
  obtain ⟨s, hs, hpayload⟩ := List.mem_filterMap.1 hp
  cases h s hs with
  | output => cases hpayload
  | block hreturn =>
    cases hpayload
    exact hreturn

variable {α : Type} {read : String → Except Json.ReadError α}

/-- Decoding a stream looks at its payloads from the last one back. -/
theorem decode_stream (hm : m.Proper) {segments : List Segment} (h : ∀ s ∈ segments, s.Fits m) :
    m.decode read (stream m segments) = m.outcome none ((payloads segments).map read).reverse := by
  rw [Markers.decode_eq_outcome, bodies_stream hm h, List.map_map]
  congr 2
  refine List.map_congr_left fun payload hp => ?_
  rw [Function.comp_apply, unlines_lines (returns_of_mem_payloads h hp), String.ofList_toList]

theorem findSome?_of_faults {texts : List String} (h : ∀ text ∈ texts, ∃ e, read text = .error e) :
    (texts.map read).reverse.findSome? Except.toOption = none := by
  refine List.findSome?_eq_none_iff.2 fun result hresult => ?_
  obtain ⟨text, htext, rfl⟩ := List.mem_map.1 (List.mem_reverse.1 hresult)
  obtain ⟨e, he⟩ := h text htext
  rw [he]
  rfl

theorem decode_stream_of_value (hm : m.Proper) {segments : List Segment} (h : ∀ s ∈ segments, s.Fits m)
    {before behind : List String} {payload : String} {a : α} (hpayloads : payloads segments = before ++ payload :: behind)
    (ha : read payload = .ok a) (hlater : ∀ later ∈ behind, ∃ e, read later = .error e) :
    m.decode read (stream m segments) = .ok a := by
  rw [decode_stream hm h, Markers.outcome_none, hpayloads, List.map_append, List.map_cons, List.reverse_append,
    List.reverse_cons, List.append_assoc, List.findSome?_append, findSome?_of_faults hlater, ha]
  rfl

theorem decode_stream_of_faults (hm : m.Proper) {segments : List Segment} (h : ∀ s ∈ segments, s.Fits m)
    {before : List String} {payload : String} {e : Json.ReadError} (hpayloads : payloads segments = before ++ [payload])
    (he : read payload = .error e) (hearlier : ∀ earlier ∈ before, ∃ e, read earlier = .error e) :
    m.decode read (stream m segments) = .error (.invalidJson m.consumer e.message) := by
  have hnone : ((payloads segments).map read).reverse.findSome? Except.toOption = none := by
    refine findSome?_of_faults fun text htext => ?_
    rw [hpayloads] at htext
    rcases List.mem_append.1 htext with htext | htext
    · exact hearlier text htext
    · exact ⟨e, List.mem_singleton.1 htext ▸ he⟩
  have hhead : ((payloads segments).map read).reverse.head? = some (.error e) := by
    rw [hpayloads, List.map_append, List.reverse_append, List.map_singleton, he]
    rfl
  rw [decode_stream hm h, Markers.outcome_none, hnone, hhead]

theorem decode_stream_of_no_payload (hm : m.Proper) {segments : List Segment} (h : ∀ s ∈ segments, s.Fits m)
    (hnil : payloads segments = []) :
    m.decode read (stream m segments) = .error (.missingMarkers m.consumer) := by
  rw [decode_stream hm h, hnil]
  rfl

/-- A block of the other consumer is ordinary output. -/
theorem fits_wrap_of_ne {m other : Markers} (hm : m = .trace ∨ m = .test)
    (hother : other = .trace ∨ other = .test) (hne : other ≠ m) {payload : String}
    (hfree : m.Free payload.toList) : (Segment.output (other.wrap payload)).Fits m := by
  have hlines := Markers.lines_wrap (Markers.proper_of_consumer hother) payload []
  have hstart : (m.isStart other.start.toList = false ∧ m.isStop other.start.toList = false) ∧
      m.isStart other.stop.toList = false ∧ m.isStop other.stop.toList = false := by
    rcases hm with rfl | rfl <;> rcases hother with rfl | rfl
    · exact (hne rfl).elim
    · decide
    · decide
    · exact (hne rfl).elim
  have hlast : (other.wrap payload).toList.getLast? = some '\n' := by
    rw [Markers.wrap, String.toList_append]
    exact List.getLast?_concat
  refine .output (.inr hlast) fun line hline => ?_
  rw [List.append_nil] at hlines
  rw [hlines, lines_nil, List.mem_cons, List.mem_append, List.mem_singleton] at hline
  rcases hline with rfl | hline | rfl
  · exact hstart.1
  · exact (Markers.proper_of_consumer hm).free_feed hfree line hline
  · exact hstart.2

/-- Decoding a stream gives the value of its last payload that can be read; if it has payloads and none can be
read, the fault of the last one; and without a payload that there is no block. So the ordinary output of the
stream does not count, and blocks of the other consumer are ordinary output. -/
theorem decode_stream_exact (m : Markers) (hm : m = .trace ∨ m = .test) (read : String → Except Json.ReadError α)
    (segments : List Segment) (h : ∀ s ∈ segments, s.Fits m) :
    (∀ before payload behind a, payloads segments = before ++ payload :: behind → read payload = .ok a →
      (∀ later ∈ behind, ∃ e, read later = .error e) → m.decode read (stream m segments) = .ok a) ∧
    (∀ before payload e, payloads segments = before ++ [payload] → read payload = .error e →
      (∀ earlier ∈ before, ∃ e, read earlier = .error e) →
      m.decode read (stream m segments) = .error (.invalidJson m.consumer e.message)) ∧
    (payloads segments = [] → m.decode read (stream m segments) = .error (.missingMarkers m.consumer)) ∧
    (∀ segments', (∀ s ∈ segments', s.Fits m) → payloads segments' = payloads segments →
      m.decode read (stream m segments') = m.decode read (stream m segments)) ∧
    (∀ other payload, other = .trace ∨ other = .test → other ≠ m → m.Free payload.toList →
      (Segment.output (other.wrap payload)).Fits m) := by
  have hproper := Markers.proper_of_consumer hm
  refine ⟨fun before payload behind a hpayloads ha hlater => ?_, fun before payload e hpayloads he hearlier => ?_,
    fun hnil => ?_, fun segments' h' heq => ?_, fun other payload hother hne hfree => ?_⟩
  · exact decode_stream_of_value hproper h hpayloads ha hlater
  · exact decode_stream_of_faults hproper h hpayloads he hearlier
  · exact decode_stream_of_no_payload hproper h hnil
  · rw [decode_stream hproper h, decode_stream hproper h', heq]
  · exact fits_wrap_of_ne hm hother hne hfree

/-- Behind a payload that can be read stand a block of the other consumer and a payload that cannot be read. -/
theorem decode_stream_exact_mixed :
    let segments : List Segment := [.output "__PYRUNNER_TEST_BEGIN__\nhi\r\n", .block "\"old\"", .block "\"a\\nb\"",
      .output (Markers.test.wrap "\"c\""), .block "no text"]
    Markers.trace.decode (Json.parse Json.readText) (stream .trace segments) = .ok "a\nb" := by
  intro segments
  have hfits : ∀ s ∈ segments, s.Fits .trace := by
    intro s hs
    simp only [segments, List.mem_cons, List.not_mem_nil, or_false] at hs
    rcases hs with rfl | rfl | rfl | rfl | rfl
    · exact .output (.inr (by decide)) (by unfold Markers.Free; decide)
    · exact .block (by decide) (by unfold Markers.Free; decide)
    · exact .block (by decide) (by unfold Markers.Free; decide)
    · exact fits_wrap_of_ne (.inl rfl) (.inr rfl) (by decide) (by unfold Markers.Free; decide)
    · exact .block (by decide) (by unfold Markers.Free; decide)
  have hread : (Json.parse Json.readText "\"a\\nb\"").toOption = some "a\nb" := by decide +kernel
  have hlater : ∀ later ∈ ["no text"], ∃ e, Json.parse Json.readText later = .error e := by
    intro later hlater
    rw [List.mem_singleton.1 hlater]
    exact ⟨_, rfl⟩
  exact (decode_stream_exact .trace (.inl rfl) (Json.parse Json.readText) segments hfits).1 ["\"old\""] _ _ _ rfl
    (Json.eq_ok_of_toOption hread) hlater

end Segment

end ScriptBench
