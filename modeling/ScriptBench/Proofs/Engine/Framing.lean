import ScriptBench.Proofs.Engine.Answering
import ScriptBench.Proofs.Engine.ByteLines
import ScriptBench.Proofs.Engine.Input

/-! Requests on the wire. Each is one line of bytes without control characters, and any number of them behind each
other are read back one by one. -/
namespace ScriptBench

open Json Text

namespace Text

theorem lined_flatMap_feed {texts : List (List Char)} (h : ∀ text ∈ texts, OneLine text) :
    Lined (texts.flatMap fun text => bytes text ++ [10]) (texts.map bytes) := by
  induction texts with
  | nil => exact .nil
  | cons text texts ih =>
    have htext := h text (by simp)
    have hmore := ih fun other hother => h other (by simp [hother])
    have hline := Lined.feed (feed_not_mem_bytes htext.feed_not_mem) hmore
    rw [dropReturn_bytes, trimReturn, if_neg htext.getLast?_ne] at hline
    rw [List.flatMap_cons, List.append_assoc, List.singleton_append]
    exact hline

/-- A text without control characters has no bytes of control characters. -/
theorem le_toNat_of_mem_bytes {text : List Char} (h : OneLine text) {b : UInt8} (hb : b ∈ bytes text) :
    0x20 ≤ b.toNat := by
  obtain ⟨c, hc, hb⟩ := List.mem_flatMap.1 hb
  by_cases hascii : b.toNat < 0x80
  · rw [← toNat_eq_of_mem_utf8EncodeChar hb hascii]
    exact h c hc
  · omega

end Text

namespace Request

/-- The bytes that are written for a request: its line and a feed. -/
def written (r : Request) : List UInt8 := encodeUtf8 r.line ++ [10]

/-- The request that an object states by its members. -/
def ofJson? (v : Value) : Option Request :=
  match v.member? "op", v.member? "id", v.member? "code", v.member? "library", v.member? "module" with
  | some (.string op), some (.number (.int id)), some (.string code), some library, some (.string module) =>
    if op = "exec" then
      match library with
      | .null => some ⟨id.toNat, code, none, module⟩
      | .string text => some ⟨id.toNat, code, some text, module⟩
      | _ => none
    else none
  | _, _, _, _, _ => none

/-- A request that a line of bytes states. -/
def ofBytes? (line : List UInt8) : Option Request :=
  (decodeUtf8 line).toOption.bind fun text => (Value.parse text).toOption.bind ofJson?

variable {r : Request} {requests : List Request}

theorem ofJson?_toJson (r : Request) : ofJson? r.toJson = some r := by
  obtain ⟨id, code, library?, module⟩ := r
  cases library? <;> rfl

theorem ofBytes?_line (hid : r.id < UInt64.size) : ofBytes? (encodeUtf8 r.line) = some r := by
  simp only [ofBytes?, decodeUtf8_encodeUtf8, Except.toOption, Option.bind_some, parse_line hid, ofJson?_toJson]

theorem lined_written (requests : List Request) :
    Lined (requests.flatMap written) (requests.map fun r => encodeUtf8 r.line) := by
  have hlines := @lined_flatMap_feed (requests.map fun r => r.line.toList) fun text htext => by
    obtain ⟨r, _, rfl⟩ := List.mem_map.1 htext
    exact r.oneLine_line
  simp only [List.flatMap_map, List.map_map, Function.comp_def, bytes_toList] at hlines
  exact hlines

/-- A call of a worker that can be written to serves its process the line of its request, and then waits for the
answer. -/
theorem exec_serves {w : Worker} (hid : w.nextId = r.id) (haccepts : w.process.accepts = true) (timed : Bool) :
    ∃ w' : Worker, w'.process = w.process.serve [r.line] ∧
      w.exec timed r.code r.library? r.module = w'.await (timed && w'.cell?.isSome) r.id := by
  refine ⟨{ w.begin.2 with process := w.process.serve [r.line] }, rfl, ?_⟩
  have hsend : w.begin.2.send r = .ok { w.begin.2 with process := w.process.serve [r.line] } := by
    have hserve : w.begin.2.process.send r.line = .ok (w.process.serve [r.line]) := Process.send_of_accepts haccepts r.line
    rw [Worker.send, hserve]
  obtain ⟨id, code, library?, module⟩ := r
  obtain rfl : w.begin.1 = id := hid
  simp only [Worker.exec, hsend]

/-- Requests with numbers of 64 bits, whatever stands in their texts. Each is written as one line, without a control
character in front of its feed. As JSON the line is an object with the parts of the request and no others, and a call
serves the process this line. Lines behind each other are split in one way, and are the requests in their order, so no
two requests have the same line. -/
theorem requests_framed (h : ∀ r ∈ requests, r.id < UInt64.size) :
    (∀ r ∈ requests, ∃ line, r.written = encodeUtf8 line ++ [10] ∧ OneLine line.toList ∧
      (∀ b ∈ encodeUtf8 line, 0x20 ≤ b.toNat) ∧
      Value.parse line = .ok (.object [("op", .string "exec"), ("id", .number (.int r.id)), ("code", .string r.code),
        ("library", r.library?.elim .null .string), ("module", .string r.module)]) ∧
      ∀ (w : Worker) (timed : Bool), w.nextId = r.id → w.process.accepts = true → ∃ w' : Worker,
        w'.process = w.process.serve [line] ∧
        w.exec timed r.code r.library? r.module = w'.await (timed && w'.cell?.isSome) r.id) ∧
    (∃ lines, (∀ lines', Lined (requests.flatMap written) lines' ↔ lines' = lines) ∧
      lines.map ofBytes? = requests.map some) ∧
    ∀ r ∈ requests, ∀ r' ∈ requests, r.written = r'.written → r = r' := by
  have hlined := lined_written requests
  refine ⟨fun r hr => ⟨r.line, rfl, r.oneLine_line, fun b hb => ?_, ?_, fun w timed hid haccepts =>
    exec_serves hid haccepts timed⟩,
    ⟨_, fun lines' => ⟨hlined.unique, ?_⟩, ?_⟩, fun r hr r' hr' heq => ?_⟩
  · rw [← bytes_toList] at hb
    exact le_toNat_of_mem_bytes r.oneLine_line hb
  · rw [parse_line (h r hr)]
    obtain ⟨id, code, library?, module⟩ := r
    cases library? <;> rfl
  · rintro rfl
    exact hlined
  · rw [List.map_map]
    refine List.map_congr_left fun r hr => ?_
    rw [Function.comp_apply, ofBytes?_line (h r hr)]
  · have hline := List.append_cancel_right heq
    have hread := ofBytes?_line (h r hr)
    rw [hline, ofBytes?_line (h r' hr')] at hread
    exact (Option.some.inj hread).symm

/-- Requests with line ends, quotes, backslashes and control characters in their texts, one with the greatest number. -/
def oddRequests : List Request :=
  [⟨1, "print('a\n\"\\')\r\n", some "x = 1\x00\n", "lib"⟩, ⟨18446744073709551615, "\u2028𝄞\x7f\n", none, ""⟩]

theorem requests_framed_of_odd_texts :
    (∀ r ∈ oddRequests, r.id < UInt64.size) ∧
      ∃ lines, Lined (oddRequests.flatMap written) lines ∧ lines.map ofBytes? = oddRequests.map some := by
  have hids : ∀ r ∈ oddRequests, r.id < UInt64.size := by decide
  obtain ⟨_, ⟨lines, hlined, hread⟩, _⟩ := requests_framed hids
  exact ⟨hids, lines, (hlined lines).2 rfl, hread⟩

end Request

end ScriptBench
