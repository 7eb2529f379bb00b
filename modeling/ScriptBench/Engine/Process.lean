import ScriptBench.Engine.Error
import ScriptBench.Engine.Request

/-! Interpreters as processes. A process plays something when it starts and for every request that it reads.
What it prints stays queued until the host reads it. -/
namespace ScriptBench

open Text

inductive Ending where
  | goesOn
  /-- It closes its output and lives on. -/
  | closesOutput
  /-- It closes its input, behind so many bytes of the next line at most, and lives on. -/
  | closesInput (behind : Nat := 0)
  | exits (status : ExitStatus)
  /-- It prints nothing more. -/
  | hangs
  deriving DecidableEq, Repr

/-- One act of a process: it may wait for the interrupt, prints bytes, and then goes on or not. -/
structure Play where
  awaitsInterrupt : Bool
  output : List UInt8
  ending : Ending
  deriving DecidableEq, Repr

/-- The behaviour of an interpreter: what it plays at its start, and what it plays for a request when it has
read the given requests, the last of which is this one. -/
structure Interpreter where
  hello : Play
  reply : (requests : List String) → Play

inductive Life where
  | running
  | hanging
  /-- Its output is closed. -/
  | mute
  /-- Its input is closed, but for so many bytes of the next line. -/
  | deaf (bytes : Nat)
  | ended (status : ExitStatus)
  deriving DecidableEq, Repr

structure Process where
  interpreter : Interpreter
  /-- The lines that it has read. -/
  received : List String
  /-- What it has read of a line that did not come to its end. -/
  piece : List UInt8
  /-- The lines that wait until it goes on reading. -/
  inbox : List String
  /-- The act that waits for the interrupt. -/
  waiting : Option Play
  /-- What it printed and the host has not read. -/
  unread : List UInt8
  life : Life

namespace Process

def perform (p : Process) (play : Play) : Process :=
  { p with
    unread := p.unread ++ play.output
    life := match play.ending with
      | .goesOn => p.life
      | .closesOutput => .mute
      | .closesInput behind => .deaf behind
      | .exits status => .ended status
      | .hangs => .hanging }

def play (p : Process) (play : Play) : Process :=
  if play.awaitsInterrupt then { p with waiting := some play } else p.perform play

def start (i : Interpreter) : Process := Process.play ⟨i, [], [], [], none, [], .running⟩ i.hello

/-- What a process takes of a line that is written to it: the line and its feed, or less where its input is closed. -/
def takes (p : Process) (line : String) : List UInt8 :=
  match p.life with
  | .deaf bytes => (encodeUtf8 line).take bytes
  | .ended _ => []
  | _ => encodeUtf8 line ++ [10]

/-- Reads lines as long as it runs and waits for nothing. Where its input is closed, it may read a piece of one. -/
def serve (p : Process) : List String → Process
  | [] => p
  | line :: more =>
    match p.life with
    | .running =>
      if p.waiting.isSome then { p with inbox := p.inbox ++ line :: more }
      else
        let p := { p with received := p.received ++ [line] }
        if line = Request.shutdownLine then { p with life := .ended (.code 0) }
        else (p.play (p.interpreter.reply p.received)).serve more
    | .deaf _ => { p with piece := p.piece ++ p.takes line, life := .deaf 0 }
    | _ => p

/-- Writes a line to the input of a process. The pipe breaks if nobody reads the line to its end. A piece of it may have
got through then. -/
def send (p : Process) (line : String) : Except (OsError × Process) Process :=
  match p.life with
  | .deaf _ | .ended _ => .error (.brokenPipe, p.serve [line])
  | _ => .ok (p.serve [line])

/-- A process behind a write, whether it has failed or not. -/
def written (p : Process) (line : String) : Process :=
  match p.send line with
  | .ok p | .error (_, p) => p

def kill (p : Process) : Process := { p with inbox := [], waiting := none, life := .ended (.signal 9) }

def interrupt (p : Process) : Process :=
  match p.waiting with
  | none => p
  | some play => (Process.perform { p with waiting := none, inbox := [] } play).serve p.inbox

/-- Whether nothing more can come out of a process, and how it ended. -/
def outputEnd? (p : Process) : Option (Option ExitStatus) :=
  match p.life with
  | .mute => some none
  | .ended status => some (some status)
  | _ => none

end Process

inductive Heard where
  | line (text : String)
  | unreadable (f : Utf8Fault)
  /-- The output is at its end. The process may have ended as well. -/
  | ended (status? : Option ExitStatus)
  /-- No line is there yet. -/
  | silence
  deriving DecidableEq, Repr

/-- Splits bytes at the first line feed, which is dropped. -/
def splitLine : List UInt8 → Option (List UInt8 × List UInt8)
  | [] => none
  | b :: rest =>
    if b = 10 then some ([], rest)
    else (splitLine rest).map fun (line, rest) => (b :: line, rest)

def dropReturn (bytes : List UInt8) : List UInt8 :=
  if bytes.getLast? = some 13 then bytes.dropLast else bytes

def hearBytes (bytes : List UInt8) : Heard :=
  match decodeUtf8 bytes with
  | .ok text => .line text
  | .error f => .unreadable f

/-- Reads a line from queued bytes, and gives the bytes behind it. At the end of the output what is left is a
line. -/
def hear (outputEnd? : Option (Option ExitStatus)) (bytes : List UInt8) : Heard × List UInt8 :=
  match splitLine bytes with
  | some (line, rest) => (hearBytes (dropReturn line), rest)
  | none =>
    match outputEnd? with
    | none => (.silence, bytes)
    | some status => if bytes = [] then (.ended status, []) else (hearBytes bytes, [])

def Process.hear (p : Process) : Heard × Process :=
  let (h, rest) := ScriptBench.hear p.outputEnd? p.unread
  (h, { p with unread := rest })

theorem splitLine_length {bytes line rest : List UInt8} (h : splitLine bytes = some (line, rest)) :
    rest.length < bytes.length := by
  induction bytes generalizing line with
  | nil => simp [splitLine] at h
  | cons b more ih =>
    unfold splitLine at h
    split at h
    · simp only [Option.some.injEq, Prod.mk.injEq] at h
      simp [← h.2]
    · simp only [Option.map_eq_some_iff, Prod.mk.injEq, Prod.exists] at h
      obtain ⟨l, r, hr, _, rfl⟩ := h
      have := ih hr
      simp only [List.length_cons]
      omega

theorem hear_length {e : Option (Option ExitStatus)} {bytes rest : List UInt8} {text : String}
    (h : hear e bytes = (.line text, rest)) : rest.length < bytes.length := by
  unfold hear at h
  split at h
  · rename_i hs
    simp only [Prod.mk.injEq] at h
    exact h.2 ▸ splitLine_length hs
  · split at h
    · simp at h
    · split at h
      · simp at h
      · rename_i hb
        simp only [Prod.mk.injEq] at h
        rw [← h.2]
        exact List.length_pos_iff.2 hb

end ScriptBench
