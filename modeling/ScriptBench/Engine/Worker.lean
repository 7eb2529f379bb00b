import ScriptBench.Engine.InterruptCell
import ScriptBench.Engine.Message
import ScriptBench.Engine.Process

/-! A worker: a process that is ready, with the cell for its interrupts and the numbers of its requests. -/
namespace ScriptBench

structure Worker where
  process : Process
  version : String
  cell? : Option InterruptCell
  nextId : Nat

inductive Listened where
  | answered (r : Except EngineError Reply)
  /-- There is nothing more to read for now. -/
  | silence

/-- The answer that a message gives to a request. Messages that answer something else give none. -/
def Message.answers? (id : Nat) : Message → Option (Except EngineError Reply)
  | .result r => if r.id? = some id then some (.ok r) else none
  | .invalid message => some (.error (.rejected message))
  | .ready _ _ => none

/-- The answer that a line gives to a request. A line that cannot be read gives none. -/
def answerOfLine? (id : Nat) (line : String) : Option (Except EngineError Reply) :=
  (Message.ofLine? line).bind (·.answers? id)

def CrashCause.ofEnd : Option ExitStatus → CrashCause
  | some status => .exited status
  | none => .outputClosed

/-- Reads lines up to the first that answers a request, and gives the bytes behind it. -/
def listen (id : Nat) (outputEnd? : Option (Option ExitStatus)) (bytes : List UInt8) :
    Listened × List UInt8 :=
  match _h : hear outputEnd? bytes with
  | (.silence, rest) => (.silence, rest)
  | (.unreadable f, rest) => (.answered (.error (.crashed (.unreadable f))), rest)
  | (.ended status?, rest) => (.answered (.error (.crashed (.ofEnd status?))), rest)
  | (.line text, rest) =>
    match answerOfLine? id text with
    | some r => (.answered r, rest)
    | none => listen id outputEnd? rest
termination_by bytes.length
decreasing_by exact hear_length _h

namespace Process

/-- Reads lines of a process up to the first that answers a request. -/
def listen (id : Nat) (p : Process) : Listened × Process :=
  let (l, rest) := ScriptBench.listen id p.outputEnd? p.unread
  (l, { p with unread := rest })

end Process

namespace Worker

/-- Takes a number for a request and clears the cell, so that an earlier interrupt does not count. -/
def begin (w : Worker) : Nat × Worker :=
  (w.nextId, { w with nextId := w.nextId + 1, cell? := w.cell?.map (·.reset) })

/-- The watchdog sets the cell and interrupts the interpreter. -/
def fire (w : Worker) : Worker :=
  { w with cell? := w.cell?.map (·.trigger), process := w.process.interrupt }

def interrupted (w : Worker) : Bool := w.cell?.any (·.isSet)

def send (w : Worker) (request : Request) : Except (EngineError × Worker) Worker :=
  match w.process.send request.line with
  | .ok p => .ok { w with process := p }
  | .error (e, p) => .error (.crashed (.notWritten e), { w with process := p })

def listen (w : Worker) (id : Nat) : Listened × Worker :=
  let (l, p) := w.process.listen id
  (l, { w with process := p })

/-- Listens for an answer. If there is none and a watchdog is armed, it fires before the answer comes. There
is no answer if the interpreter keeps silent for ever. -/
def await (w : Worker) (armed : Bool) (id : Nat) : Option (Except EngineError Reply × Worker) :=
  match w.listen id with
  | (.answered a, w) => some (a, w)
  | (.silence, w) =>
    if armed then
      match w.fire.listen id with
      | (.answered a, w) => some (a, w)
      | (.silence, _) => none
    else none

/-- Runs code. A watchdog can only be armed if there is a cell. -/
def exec (w : Worker) (timed : Bool) (code : String) (library? : Option String) (module : String) :
    Option (Except EngineError Reply × Worker) :=
  let (id, w) := w.begin
  match w.send ⟨id, code, library?, module⟩ with
  | .error (e, w) => some (.error e, w)
  | .ok w => w.await (timed && w.cell?.isSome) id

/-- Asks the interpreter to end. If it does not, it is killed. -/
def shutdown (w : Worker) : Worker :=
  let p := w.process.written Request.shutdownLine
  match p.life with
  | .ended _ => { w with process := p }
  | _ => { w with process := p.kill }

end Worker

end ScriptBench
