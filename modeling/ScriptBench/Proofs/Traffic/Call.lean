import ScriptBench.Execution.Run
import ScriptBench.Proofs.Execution.Exchange

/-! One call of a worker, step by step: it waits for the session, clears the cell, arms a watchdog, exchanges its
request for a result, calls the watchdog off, reads the cell, and leaves the session. The watchdog of a call takes steps
of its own in between. -/
namespace ScriptBench

namespace Worker

/-- The first half of an interrupt: the cell is set. -/
def mark (w : Worker) : Worker := { w with cell? := w.cell?.map (·.trigger) }

/-- The second half of an interrupt: it reaches the interpreter. -/
def strike (w : Worker) : Worker := { w with process := w.process.interrupt }

theorem strike_mark (w : Worker) : w.mark.strike = w.fire := rfl

@[simp] theorem interrupted_begin (w : Worker) : w.begin.2.interrupted = false := by
  cases hcell : w.cell? with
  | none => simp [begin, interrupted, hcell]
  | some c => simp [begin, interrupted, hcell, InterruptCell.reset, InterruptCell.clear, InterruptCell.isSet,
      InterruptCell.interrupt]

theorem interrupted_mark {w : Worker} (h : w.cell?.isSome) : w.mark.interrupted = true := by
  obtain ⟨c, hc⟩ := Option.isSome_iff_exists.1 h
  simp [mark, interrupted, hc, InterruptCell.trigger, InterruptCell.isSet]

theorem cell?_of_send {w w' : Worker} {request : Request} (h : w.send request = .ok w') : w'.cell? = w.cell? := by
  unfold send at h
  split at h
  · cases h
    rfl
  · cases h

theorem cell?_of_not_sent {w w' : Worker} {request : Request} {e : EngineError}
    (h : w.send request = .error (e, w')) : w'.cell? = w.cell? := by
  unfold send at h
  split at h
  · cases h
  · cases h
    rfl

theorem cell?_of_listen {w w' : Worker} {id : Nat} {l : Listened} (h : w.listen id = (l, w')) :
    w'.cell? = w.cell? := by
  cases h
  rfl

theorem cell?_shutdown (w : Worker) : w.shutdown.cell? = w.cell? := by
  unfold shutdown
  dsimp only
  split <;> rfl

end Worker

/-- Whether a crash is one of an exchange: the request could not be written, or the output has ended or is not UTF-8. -/
def CrashCause.OfExchange : CrashCause → Prop
  | .notWritten _ | .unreadable _ | .exited _ | .outputClosed => True
  | .other _ => False

/-- Whether an error comes of an exchange: the driver refused the request, or the exchange crashed. -/
def EngineError.OfExchange : EngineError → Prop
  | .rejected _ => True
  | .crashed x => x.OfExchange
  | .notReady | .initialization _ => False

theorem ofExchange_of_send {w w' : Worker} {request : Request} {e : EngineError}
    (h : w.send request = .error (e, w')) : e.OfExchange := by
  unfold Worker.send at h
  split at h
  · cases h
  · cases h
    exact trivial

theorem ofExchange_of_answerOfLine? {id : Nat} {line : String} {e : EngineError}
    (h : answerOfLine? id line = some (.error e)) : e.OfExchange := by
  obtain ⟨m, _, hm⟩ := Option.bind_eq_some_iff.1 h
  cases m with
  | ready version pid => cases hm
  | result r =>
    unfold Message.answers? at hm
    dsimp only at hm
    split at hm <;> cases hm
  | invalid message =>
    cases hm
    exact trivial

theorem ofExchange_of_listen {id : Nat} {outputEnd? : Option (Option ExitStatus)} {bytes rest : List UInt8}
    {e : EngineError} (h : listen id outputEnd? bytes = (.answered (.error e), rest)) : e.OfExchange := by
  fun_induction listen id outputEnd? bytes with
  | case1 => cases h
  | case2 bytes f behind hhear =>
    cases h
    exact trivial
  | case3 bytes status? behind hhear =>
    cases h
    cases status? <;> exact trivial
  | case4 bytes text behind hhear a ha =>
    cases h
    exact ofExchange_of_answerOfLine? ha
  | case5 bytes text behind hhear ha ih => exact ih h

theorem Worker.ofExchange_of_listen {w w' : Worker} {id : Nat} {e : EngineError}
    (h : w.listen id = (.answered (.error e), w')) : e.OfExchange := by
  cases hlisten : ScriptBench.listen id w.process.outputEnd? w.process.unread with
  | mk l rest =>
    unfold Worker.listen Process.listen at h
    rw [hlisten] at h
    cases h
    exact ScriptBench.ofExchange_of_listen hlisten

namespace Traffic

/-- What a caller wants to run, and how. -/
structure Job where
  options : RunOptions
  source : String
  library? : Option String

/-- How far a call has come. From `entered` to `judged` it holds the session. -/
inductive Stage where
  | queued
  | entered
  /-- It has its number, and the cell is cleared. -/
  | begun (id : Nat)
  /-- The watchdog is armed, if there is one. -/
  | armed (id : Nat)
  | written (id : Nat)
  | answered (result : Except EngineError Reply)
  /-- The watchdog is told to stop. -/
  | stopping (result : Except EngineError Reply)
  /-- The watchdog has stopped. -/
  | quiet (result : Except EngineError Reply)
  /-- The cell is read. -/
  | judged (result : Except EngineError Reply) (interrupted : Bool)
  | left (result : Except EngineError Reply) (interrupted : Bool)
  | done (result : Except EngineError Reply) (interrupted : Bool)

namespace Stage

@[simp] def rank : Stage → Nat
  | .queued => 0
  | .entered => 1
  | .begun _ => 2
  | .armed _ => 3
  | .written _ => 4
  | .answered _ => 5
  | .stopping _ => 6
  | .quiet _ => 7
  | .judged _ _ => 8
  | .left _ _ => 9
  | .done _ _ => 10

/-- Whether the session is held. -/
def inSession (s : Stage) : Bool := 1 ≤ s.rank && s.rank ≤ 8

def result? : Stage → Option (Except EngineError Reply)
  | .answered r | .stopping r | .quiet r | .judged r _ | .left r _ | .done r _ => some r
  | _ => none

/-- What was read from the cell. -/
def verdict? : Stage → Option Bool
  | .judged _ b | .left _ b | .done _ b => some b
  | _ => none

end Stage

/-- The watchdog of a call. -/
inductive Watchdog where
  | absent
  /-- It waits for the time budget to elapse. -/
  | armed
  /-- It has set the cell. -/
  | firing
  /-- It has interrupted the interpreter as well. -/
  | fired
  /-- It was stopped while it waited. -/
  | calledOff
  deriving DecidableEq

namespace Watchdog

def isAlive : Watchdog → Bool
  | .armed | .firing => true
  | _ => false

def hasMarked : Watchdog → Bool
  | .firing | .fired => true
  | _ => false

end Watchdog

/-- A call. It keeps to the worker that was live when it came. -/
structure Call where
  job : Job
  worker? : Option Nat
  stage : Stage
  watchdog : Watchdog

/-- A worker, and the call that holds its session. -/
structure Seat where
  worker : Worker
  holder? : Option Nat

inductive Move where
  | enter
  | begin
  | arm
  | send
  | listen
  | stop
  | settle
  | judge
  | leave
  /-- The watchdog sets the cell. -/
  | mark
  /-- The watchdog interrupts the interpreter. -/
  | strike
  /-- The watchdog stops. -/
  | dismiss
  deriving DecidableEq

namespace Call

def request (call : Call) (id : Nat) : Request :=
  ⟨id, call.job.source, call.job.library?, call.job.options.module⟩

/-- The watchdog that a call arms: one that is in time, if there is a cell. -/
def newWatchdog (call : Call) (w : Worker) : Watchdog :=
  if call.job.options.timeout?.isSome && w.cell?.isSome then .armed else .absent

/-- One move of a call with a number, at its seat. -/
def move (c : Nat) (call : Call) (seat : Seat) (m : Move) : Option (Call × Seat) :=
  match m, call.stage with
  | .enter, .queued =>
    if seat.holder? = none then some ({ call with stage := .entered }, { seat with holder? := some c }) else none
  | .begin, .entered =>
    let (id, w) := seat.worker.begin
    some ({ call with stage := .begun id }, { seat with worker := w })
  | .arm, .begun id => some ({ call with stage := .armed id, watchdog := call.newWatchdog seat.worker }, seat)
  | .send, .armed id =>
    match seat.worker.send (call.request id) with
    | .ok w => some ({ call with stage := .written id }, { seat with worker := w })
    | .error (e, w) => some ({ call with stage := .answered (.error e) }, { seat with worker := w })
  | .listen, .written id =>
    match seat.worker.listen id with
    | (.answered r, w) => some ({ call with stage := .answered r }, { seat with worker := w })
    | (.silence, w) => some (call, { seat with worker := w })
  | .stop, .answered r => some ({ call with stage := .stopping r }, seat)
  | .settle, .stopping r => if call.watchdog.isAlive then none else some ({ call with stage := .quiet r }, seat)
  | .judge, .quiet r => some ({ call with stage := .judged r seat.worker.interrupted }, seat)
  | .leave, .judged r b => some ({ call with stage := .left r b }, { seat with holder? := none })
  | .mark, _ =>
    if call.watchdog = .armed then
      some ({ call with watchdog := .firing }, { seat with worker := seat.worker.mark })
    else none
  | .strike, _ =>
    if call.watchdog = .firing then
      some ({ call with watchdog := .fired }, { seat with worker := seat.worker.strike })
    else none
  | .dismiss, .stopping _ =>
    if call.watchdog = .armed then some ({ call with watchdog := .calledOff }, seat) else none
  | _, _ => none

/-- What a move needs and does. -/
inductive Moved (c : Nat) (call : Call) (seat : Seat) : Move → Call → Seat → Prop where
  | enter (stage : call.stage = .queued) (free : seat.holder? = none) :
    Moved c call seat .enter { call with stage := .entered } { seat with holder? := some c }
  | begin (stage : call.stage = .entered) :
    Moved c call seat .begin { call with stage := .begun seat.worker.begin.1 }
      { seat with worker := seat.worker.begin.2 }
  | arm (id : Nat) (stage : call.stage = .begun id) :
    Moved c call seat .arm { call with stage := .armed id, watchdog := call.newWatchdog seat.worker } seat
  | sent (id : Nat) (w : Worker) (stage : call.stage = .armed id)
    (sent : seat.worker.send (call.request id) = .ok w) :
    Moved c call seat .send { call with stage := .written id } { seat with worker := w }
  | unsent (id : Nat) (e : EngineError) (w : Worker) (stage : call.stage = .armed id)
    (unsent : seat.worker.send (call.request id) = .error (e, w)) :
    Moved c call seat .send { call with stage := .answered (.error e) } { seat with worker := w }
  | heard (id : Nat) (r : Except EngineError Reply) (w : Worker) (stage : call.stage = .written id)
    (heard : seat.worker.listen id = (.answered r, w)) :
    Moved c call seat .listen { call with stage := .answered r } { seat with worker := w }
  | silent (id : Nat) (w : Worker) (stage : call.stage = .written id)
    (silent : seat.worker.listen id = (.silence, w)) : Moved c call seat .listen call { seat with worker := w }
  | stop (r : Except EngineError Reply) (stage : call.stage = .answered r) :
    Moved c call seat .stop { call with stage := .stopping r } seat
  | settle (r : Except EngineError Reply) (stage : call.stage = .stopping r)
    (ended : call.watchdog.isAlive = false) : Moved c call seat .settle { call with stage := .quiet r } seat
  | judge (r : Except EngineError Reply) (stage : call.stage = .quiet r) :
    Moved c call seat .judge { call with stage := .judged r seat.worker.interrupted } seat
  | leave (r : Except EngineError Reply) (b : Bool) (stage : call.stage = .judged r b) :
    Moved c call seat .leave { call with stage := .left r b } { seat with holder? := none }
  | mark (armed : call.watchdog = .armed) :
    Moved c call seat .mark { call with watchdog := .firing } { seat with worker := seat.worker.mark }
  | strike (firing : call.watchdog = .firing) :
    Moved c call seat .strike { call with watchdog := .fired } { seat with worker := seat.worker.strike }
  | dismiss (r : Except EngineError Reply) (stage : call.stage = .stopping r) (armed : call.watchdog = .armed) :
    Moved c call seat .dismiss { call with watchdog := .calledOff } seat

variable {c : Nat} {call call' : Call} {seat seat' : Seat} {m : Move}

theorem moved_of_move (h : call.move c seat m = some (call', seat')) : Moved c call seat m call' seat' := by
  unfold move at h
  split at h
  · rename_i hstage
    split at h
    · rename_i hfree
      cases h
      exact .enter hstage hfree
    · cases h
  · rename_i hstage
    cases h
    exact .begin hstage
  · rename_i id hstage
    cases h
    exact .arm id hstage
  · rename_i id hstage
    split at h
    · rename_i w hsend
      cases h
      exact .sent id w hstage hsend
    · rename_i e w hsend
      cases h
      exact .unsent id e w hstage hsend
  · rename_i id hstage
    split at h
    · rename_i r w hlisten
      cases h
      exact .heard id r w hstage hlisten
    · rename_i w hlisten
      cases h
      exact .silent id w hstage hlisten
  · rename_i r hstage
    cases h
    exact .stop r hstage
  · rename_i r hstage
    split at h
    · cases h
    · rename_i hover
      cases h
      exact .settle r hstage (Bool.eq_false_iff.2 hover)
  · rename_i r hstage
    cases h
    exact .judge r hstage
  · rename_i r b hstage
    cases h
    exact .leave r b hstage
  · split at h
    · rename_i harmed
      cases h
      exact .mark harmed
    · cases h
  · split at h
    · rename_i hfiring
      cases h
      exact .strike hfiring
    · cases h
  · rename_i r hstage
    split at h
    · rename_i harmed
      cases h
      exact .dismiss r hstage harmed
    · cases h
  · cases h

end Call

end Traffic

end ScriptBench
