import ScriptBench.Proofs.Engine.Report
import ScriptBench.Proofs.Json.Printed
import ScriptBench.Proofs.Json.Reading

/-! Calls to an interpreter that answers at once. What was left unread makes no difference if it answers nothing. -/
namespace ScriptBench

open Json Text

/-! What is left unread -/

section

variable {id : Nat} {outputEnd? : Option (Option ExitStatus)}

theorem listen_of_stale_bytes {text : List Char} (hends : text = [] ∨ text.getLast? = some '\n')
    (hstale : ∀ line ∈ lines text, ∀ a, ¬Answers id (.ofList line) a) (more : List UInt8) :
    listen id outputEnd? (bytes text ++ more) = listen id outputEnd? more := by
  induction text using row_induction with
  | last row hrow =>
    rcases hends with rfl | hlast
    · rfl
    · exact (hrow (List.mem_of_getLast? hlast)).elim
  | feed row rest hrow ih =>
    rw [lines_append_feed hrow, List.forall_mem_cons] at hstale
    have hfeed : String.utf8EncodeChar '\n' = [10] := rfl
    have hhear := hear_row hrow outputEnd? (bytes rest ++ more)
    have hother := listen_of_other hhear (answerOfLine?_eq_none_iff.2 hstale.1)
    have hrest : rest = [] ∨ rest.getLast? = some '\n' := by
      rcases List.eq_nil_or_concat rest with rfl | ⟨front, c, rfl⟩
      · exact .inl rfl
      · rcases hends with hnil | hlast
        · simp at hnil
        · rw [List.concat_eq_append, ← List.cons_append, ← List.append_assoc, List.getLast?_concat] at hlast
          rw [List.concat_eq_append, List.getLast?_concat]
          exact .inr hlast
    rw [bytes_append, bytes_cons, hfeed, List.append_assoc, List.append_assoc, List.singleton_append, hother,
      ih hrest hstale.2]

/-- Ended lines that answer something else are passed over, whatever bytes stand behind them. -/
theorem listen_of_stale {text : String} (hends : EndsLine text)
    (hstale : ∀ line ∈ queuedLines text, ∀ a, ¬Answers id line a) (more : List UInt8) :
    listen id outputEnd? (encodeUtf8 text ++ more) = listen id outputEnd? more := by
  rw [← bytes_toList]
  refine listen_of_stale_bytes ?_ (fun line hline => hstale _ (List.mem_map_of_mem hline)) more
  rcases hends with rfl | hlast
  · exact .inl rfl
  · exact .inr hlast

end

/-! Plays -/

namespace Play

/-- A play prints one line, with its end. -/
def Says (play : Play) (line : String) : Prop :=
  ∃ row, '\n' ∉ row ∧ String.ofList (trimReturn row) = line ∧ play = ⟨false, bytes row ++ [10], .goesOn⟩

/-- The play that ends the output. The interpreter ends with a status, or lives on and closes its output. -/
def leave : Option ExitStatus → Play
  | some status => ⟨false, [], .exits status⟩
  | none => ⟨false, [], .closesOutput⟩

/-- The play that prints a line. -/
def say (line : String) : Play := ⟨false, encodeUtf8 line ++ [10], .goesOn⟩

theorem says_say {line : String} (h : OneLine line.toList) : (say line).Says line := by
  refine ⟨line.toList, h.feed_not_mem, ?_, ?_⟩
  · rw [trimReturn, if_neg h.getLast?_ne, String.ofList_toList]
  · rw [bytes_toList]
    rfl

end Play

/-! Values on one line -/

theorem parse_line {v : Value} (h : v.Printed) (hheight : v.height < depthLimit) : Value.parse v.line = .ok v :=
  parse_of_spells hheight h.spells_line

theorem says_line {v : Value} (h : v.Printed) : (Play.say v.line).Says v.line := Play.says_say h.oneLine_line

theorem ofLine?_line {v : Value} (h : v.Printed) (hheight : v.height < depthLimit) :
    Message.ofLine? v.line = Message.ofValue? v := by
  rw [Message.ofLine?, parse_line h hheight]
  rfl

/-! Requests -/

namespace Request

theorem printed_toJson {r : Request} (hid : r.id < UInt64.size) : r.toJson.Printed := by
  refine printed_object fun m hm => ?_
  simp only [List.mem_cons, List.not_mem_nil, or_false] at hm
  rcases hm with rfl | rfl | rfl | rfl | rfl
  · exact printed_text "exec"
  · exact printed_nat hid
  · exact printed_text r.code
  · exact printed_text? r.library?
  · exact printed_text r.module

theorem height_toJson_lt (r : Request) : r.toJson.height < depthLimit := by
  have hlibrary : (Value.text? r.library?).height = 0 := by cases r.library? <;> rfl
  simp only [toJson, Value.nat, Value.height, membersHeight, hlibrary]
  decide

/-- A request stands on one line, whatever stands in its texts. -/
theorem oneLine_line (r : Request) : OneLine r.line.toList := by
  rw [line, Value.line, String.toList_ofList]
  refine oneLine_object fun m hm => ?_
  simp only [List.mem_cons, List.not_mem_nil, or_false] at hm
  rcases hm with rfl | rfl | rfl | rfl | rfl
  · exact (printed_text "exec").oneLine
  · exact oneLine_nat r.id
  · exact (printed_text r.code).oneLine
  · exact (printed_text? r.library?).oneLine
  · exact (printed_text r.module).oneLine

/-- An interpreter can read a request. -/
theorem parse_line {r : Request} (hid : r.id < UInt64.size) : Value.parse r.line = .ok r.toJson :=
  ScriptBench.parse_line (printed_toJson hid) r.height_toJson_lt

theorem line_ne_shutdownLine (r : Request) : r.line ≠ shutdownLine := by
  intro h
  have hchars : r.toJson.compact[7]? = shutdownLine.toList[7]? := by
    rw [← h, line, Value.line, String.toList_ofList]
  have hexec : r.toJson.compact[7]? = some 'e' := rfl
  rw [hexec] at hchars
  exact absurd hchars (by decide)

end Request

/-- The life of a process whose output has ended. -/
def Life.gone : Option ExitStatus → Life
  | some status => .ended status
  | none => .mute

namespace Process

/-- A process reads on. It has nothing unread but ended lines that do not answer a request. -/
structure Attends (p : Process) (id : Nat) : Prop where
  running : p.life = .running
  idle : p.waiting = none
  stale : ∃ text, EndsLine text ∧ p.unread = encodeUtf8 text ∧ ∀ line ∈ queuedLines text, ∀ a, ¬Answers id line a

variable {p : Process} {id : Nat}

theorem send_of_attends (h : p.Attends id) {line : String} (hline : line ≠ Request.shutdownLine) :
    p.send line = .ok (Process.play { p with received := p.received ++ [line] }
      (p.interpreter.reply (p.received ++ [line]))) := by
  have hrunning := h.running
  have hidle := h.idle
  simp [send, serve, hrunning, hidle, hline]

theorem Attends.outputEnd?_eq (h : p.Attends id) : p.outputEnd? = none := by
  rw [outputEnd?, h.running]

theorem listen_of_listen {l : Listened} {outputEnd? : Option (Option ExitStatus)} {rest : List UInt8}
    (hend : p.outputEnd? = outputEnd?) (h : ScriptBench.listen id outputEnd? p.unread = (l, rest)) :
    p.listen id = (l, { p with unread := rest }) := by
  rw [listen, hend, h]

theorem play_of_goesOn (p : Process) (output : List UInt8) :
    p.play ⟨false, output, .goesOn⟩ = { p with unread := p.unread ++ output } := rfl

theorem play_leave (p : Process) (status? : Option ExitStatus) :
    p.play (.leave status?) = { p with life := Life.gone status? } := by
  cases status? <;> simp [play, Play.leave, perform, Life.gone]

theorem outputEnd?_of_gone {status? : Option ExitStatus} (h : p.life = .gone status?) :
    p.outputEnd? = some status? := by
  rw [outputEnd?, h]
  cases status? <;> rfl

theorem attends_of_nothing (hrunning : p.life = .running) (hidle : p.waiting = none) (hunread : p.unread = [])
    (id : Nat) : p.Attends id :=
  ⟨hrunning, hidle, "", .inl rfl, hunread, nofun⟩

end Process

namespace Worker

/-- A worker behind a call whose answer was read as the last thing. -/
def past (w : Worker) (r : Request) : Worker :=
  { w.begin.2 with process := { w.process with received := w.process.received ++ [r.line], unread := [] } }

variable {w : Worker} {timed : Bool} {code : String} {library? : Option String} {module : String}

/-- The line that an interpreter says for a request is the result of the call. -/
theorem exec_of_said {line : String} {a : Except EngineError Reply} (h : w.process.Attends w.nextId)
    (hplay : (w.process.interpreter.reply
      (w.process.received ++ [(w.request code library? module).line])).Says line)
    (ha : Answers w.nextId line a) :
    w.exec timed code library? module = some (a, w.past (w.request code library? module)) := by
  obtain ⟨row, hrow, rfl, hplay⟩ := hplay
  obtain ⟨text, hends, hunread, hstale⟩ := h.stale
  have hlisten : ScriptBench.listen w.nextId none (w.process.unread ++ (bytes row ++ [10])) = (.answered a, []) := by
    rw [hunread, listen_of_stale hends hstale]
    exact listen_of_answer (hear_row hrow none []) (answerOfLine?_eq_some_iff.2 ha)
  have hsent := Process.send_of_attends h (w.request code library? module).line_ne_shutdownLine
  rw [hplay, Process.play_of_goesOn] at hsent
  have hanswered := Process.listen_of_listen (p := { w.process with
    received := w.process.received ++ [(w.request code library? module).line]
    unread := w.process.unread ++ (bytes row ++ [10]) }) h.outputEnd?_eq hlisten
  rw [exec_of_sent hsent]
  exact await_of_answered hanswered

/-- A call crashes whose request makes the interpreter leave. -/
theorem exec_of_leave {status? : Option ExitStatus} (h : w.process.Attends w.nextId)
    (hplay : w.process.interpreter.reply
      (w.process.received ++ [(w.request code library? module).line]) = .leave status?) :
    ∃ w', w.exec timed code library? module = some (.error (.crashed (.ofEnd status?)), w') ∧
      w'.process.received = w.process.received ++ [(w.request code library? module).line] := by
  obtain ⟨text, hends, hunread, hstale⟩ := h.stale
  have hlisten : ScriptBench.listen w.nextId (some status?) w.process.unread =
      (.answered (.error (.crashed (.ofEnd status?))), []) := by
    have hskip := @listen_of_stale w.nextId (some status?) text hends hstale []
    rw [List.append_nil] at hskip
    rw [hunread, hskip]
    exact listen_of_ended rfl
  have hsent := Process.send_of_attends h (w.request code library? module).line_ne_shutdownLine
  rw [hplay, Process.play_leave] at hsent
  have hanswered := Process.listen_of_listen (p := { w.process with
    received := w.process.received ++ [(w.request code library? module).line]
    life := .gone status? }) (Process.outputEnd?_of_gone rfl) hlisten
  rw [exec_of_sent hsent]
  exact ⟨_, await_of_answered hanswered, rfl⟩

end Worker

/-! Lines that answer -/

def RaisedError.toJson (x : RaisedError) : Value :=
  .object [("kind", .string x.kind), ("message", .string x.message), ("traceback", .string x.traceback)]

namespace Reply

def errorJson : Option RaisedError → Value
  | some x => x.toJson
  | none => .null

/-- A reply to a request as the driver tells it. -/
def toJson (id : Nat) (r : Reply) : Value :=
  .object
    [("type", .string "result"), ("id", .nat id), ("ok", .bool r.ok), ("stdout", .string r.stdout),
     ("stderr", .string r.stderr), ("value", .text? r.value?), ("error", errorJson r.error?)]

variable {id : Nat}

theorem printed_toJson (hid : id < UInt64.size) (r : Reply) : (r.toJson id).Printed := by
  have herror : (errorJson r.error?).Printed := by
    cases r.error? with
    | none => exact printed_null
    | some x =>
      refine printed_object fun m hm => ?_
      simp only [List.mem_cons, List.not_mem_nil, or_false] at hm
      rcases hm with rfl | rfl | rfl <;> exact printed_text _
  refine printed_object fun m hm => ?_
  simp only [List.mem_cons, List.not_mem_nil, or_false] at hm
  rcases hm with rfl | rfl | rfl | rfl | rfl | rfl | rfl
  · exact printed_text "result"
  · exact printed_nat hid
  · exact printed_bool r.ok
  · exact printed_text r.stdout
  · exact printed_text r.stderr
  · exact printed_text? r.value?
  · exact herror

theorem height_toJson_lt (id : Nat) (r : Reply) : (r.toJson id).height < depthLimit := by
  have hvalue : (Value.text? r.value?).height = 0 := by cases r.value? <;> rfl
  have herror : (errorJson r.error?).height ≤ 1 := by
    cases r.error? <;> simp [errorJson, RaisedError.toJson, Value.height, membersHeight]
  simp only [toJson, Value.nat, Value.height, membersHeight, hvalue]
  have hlimit : depthLimit = 128 := rfl
  omega

/-- The line that tells a reply is read as that reply to its request. -/
theorem ofLine?_line (hid : id < UInt64.size) (r : Reply) :
    Message.ofLine? (r.toJson id).line = some (.result { r with id? := some id }) := by
  have hvalue : Message.nullable? Message.text? (.text? r.value?) = some r.value? := by cases r.value? <;> rfl
  have herror : Message.nullable? Message.raisedError? (errorJson r.error?) = some r.error? := by
    cases r.error? <;> rfl
  rw [ScriptBench.ofLine?_line (printed_toJson hid r) (height_toJson_lt id r), toJson, Report.ofValue?_result hid,
    hvalue, herror]
  rfl

end Reply

namespace Message

/-- What the driver tells of a request that it refuses. -/
def refusal (message : String) : Value := .object [("type", .string "invalid"), ("message", .string message)]

theorem printed_refusal (message : String) : (refusal message).Printed := by
  refine printed_object fun m hm => ?_
  simp only [List.mem_cons, List.not_mem_nil, or_false] at hm
  rcases hm with rfl | rfl
  · exact printed_text "invalid"
  · exact printed_text message

theorem ofLine?_refusal (message : String) : ofLine? (refusal message).line = some (.invalid message) := by
  have hheight : (refusal message).height < depthLimit := by
    change 1 < depthLimit
    decide
  rw [ofLine?_line (printed_refusal message) hheight]
  rfl

end Message

end ScriptBench
