import ScriptBench.Engine.Worker

/-! The input of a process. It reads the bytes that are written to it from their front on, and no others. What does not
get through to it stands at the end: behind a piece of a line nothing is read any more. -/
namespace ScriptBench

open Text

namespace Process

/-- Whether somebody reads a line that is written to a process to its end. -/
def accepts (p : Process) : Bool :=
  match p.life with
  | .deaf _ | .ended _ => false
  | _ => true

/-- Whether nothing at all gets through to a process any more. -/
def isShut (p : Process) : Bool :=
  match p.life with
  | .deaf 0 | .ended _ => true
  | _ => false

/-- Whether a process reads what comes next, be it a piece of a line. -/
def readsOn (p : Process) : Bool :=
  match p.life with
  | .running | .deaf (_ + 1) => true
  | _ => false

/-- Lines as they are written, each with its feed. -/
def fed (lines : List String) : List UInt8 := lines.flatMap fun line => encodeUtf8 line ++ [10]

/-- The bytes that a process has read. -/
def read (p : Process) : List UInt8 := fed p.received ++ p.piece

/-- What a process has read of the bytes that were written to it. While it reads on, the others wait in its inbox. -/
structure Reads (p : Process) (bytes : List UInt8) : Prop where
  front : p.read <+: bytes
  rest : p.readsOn = true → p.piece = [] ∧ bytes = fed (p.received ++ p.inbox)
  /-- Lines wait for a process just while it waits itself. -/
  served : p.waiting = none → p.inbox = []
  idle : p.life ≠ .running → p.waiting = none

variable {p p' : Process} {bytes : List UInt8} {lines : List String} {line : String}

@[simp] theorem fed_nil : fed [] = [] := rfl

theorem fed_cons (line : String) (more : List String) : fed (line :: more) = encodeUtf8 line ++ [10] ++ fed more := rfl

theorem fed_append (lines lines' : List String) : fed (lines ++ lines') = fed lines ++ fed lines' :=
  List.flatMap_append

/-! What gets through -/

theorem life_of_accepts (h : p.accepts = true) : p.life = .running ∨ p.life = .hanging ∨ p.life = .mute := by
  unfold accepts at h
  cases hlife : p.life with
  | deaf room | ended status =>
    rw [hlife] at h
    cases h
  | running => exact .inl rfl
  | hanging => exact .inr (.inl rfl)
  | mute => exact .inr (.inr rfl)

theorem life_of_not_accepts (h : p.accepts = false) :
    (∃ room, p.life = .deaf room) ∨ ∃ status, p.life = .ended status := by
  unfold accepts at h
  cases hlife : p.life with
  | deaf room => exact .inl ⟨room, rfl⟩
  | ended status => exact .inr ⟨status, rfl⟩
  | running | hanging | mute =>
    rw [hlife] at h
    cases h

theorem send_of_accepts (h : p.accepts = true) (line : String) : p.send line = .ok (p.serve [line]) := by
  unfold send
  rcases life_of_accepts h with hlife | hlife | hlife <;> rw [hlife]

theorem send_of_not_accepts (h : p.accepts = false) (line : String) :
    p.send line = .error (.brokenPipe, p.serve [line]) := by
  unfold send
  rcases life_of_not_accepts h with ⟨room, hlife⟩ | ⟨status, hlife⟩ <;> rw [hlife]

theorem written_eq (p : Process) (line : String) : p.written line = p.serve [line] := by
  unfold written
  cases haccepts : p.accepts with
  | true => rw [send_of_accepts haccepts]
  | false => rw [send_of_not_accepts haccepts]

theorem accepts_of_send (h : p.send line = .ok p') : p.accepts = true := by
  cases haccepts : p.accepts with
  | true => rfl
  | false =>
    rw [send_of_not_accepts haccepts] at h
    cases h

theorem not_accepts_of_send {e : OsError} (h : p.send line = .error (e, p')) : p.accepts = false := by
  cases haccepts : p.accepts with
  | true =>
    rw [send_of_accepts haccepts] at h
    cases h
  | false => rfl

theorem not_isShut_of_accepts (h : p.accepts = true) : p.isShut = false := by
  unfold isShut
  rcases life_of_accepts h with hlife | hlife | hlife <;> rw [hlife]

theorem takes_of_accepts (h : p.accepts = true) (line : String) : p.takes line = encodeUtf8 line ++ [10] := by
  unfold takes
  rcases life_of_accepts h with hlife | hlife | hlife <;> rw [hlife]

/-- Of a line that nobody reads to its end no more than a piece gets through, without the feed. -/
theorem takes_of_not_accepts (h : p.accepts = false) (line : String) : p.takes line <+: encodeUtf8 line := by
  unfold takes
  rcases life_of_not_accepts h with ⟨room, hlife⟩ | ⟨status, hlife⟩
  · rw [hlife]
    exact List.take_prefix room _
  · rw [hlife]
    exact List.nil_prefix

theorem takes_of_isShut (h : p.isShut = true) (line : String) : p.takes line = [] := by
  unfold isShut at h
  unfold takes
  cases hlife : p.life with
  | deaf bytes =>
    rw [hlife] at h
    cases bytes with
    | zero => rfl
    | succ bytes => cases h
  | ended status => rfl
  | running | hanging | mute =>
    rw [hlife] at h
    cases h

theorem takes_line (p : Process) (line : String) : p.takes line <+: encodeUtf8 line ++ [10] := by
  cases haccepts : p.accepts with
  | true => exact ⟨[], by rw [takes_of_accepts haccepts, List.append_nil]⟩
  | false => exact (takes_of_not_accepts haccepts line).trans (List.prefix_append _ _)

theorem not_accepts_of_isShut (h : p.isShut = true) : p.accepts = false := by
  cases haccepts : p.accepts with
  | true =>
    rw [not_isShut_of_accepts haccepts] at h
    cases h
  | false => rfl

theorem readsOn_eq_false (hrunning : p.life ≠ .running) (hdeaf : ∀ room, p.life ≠ .deaf room) : p.readsOn = false := by
  unfold readsOn
  split
  · rename_i hlife
    exact absurd hlife hrunning
  · rename_i room hlife
    exact absurd hlife (hdeaf (room + 1))
  · rfl

/-! Serving -/

theorem serve_of_running (hlife : p.life = .running) (hwaiting : p.waiting = none) (line : String)
    (more : List String) :
    p.serve (line :: more) =
      if line = Request.shutdownLine then { p with received := p.received ++ [line], life := .ended (.code 0) }
      else (Process.play { p with received := p.received ++ [line] }
        (p.interpreter.reply (p.received ++ [line]))).serve more := by
  rw [serve, hlife, hwaiting]
  rfl

theorem serve_of_waiting (hlife : p.life = .running) (hwaiting : p.waiting ≠ none) (line : String)
    (more : List String) : p.serve (line :: more) = { p with inbox := p.inbox ++ line :: more } := by
  rw [serve, hlife]
  exact if_pos (Option.isSome_iff_ne_none.2 hwaiting)

theorem serve_of_deaf {room : Nat} (hlife : p.life = .deaf room) (line : String) (more : List String) :
    p.serve (line :: more) = { p with piece := p.piece ++ p.takes line, life := .deaf 0 } := by
  rw [serve, hlife]

theorem serve_of_not_reading (hrunning : p.life ≠ .running) (hdeaf : ∀ room, p.life ≠ .deaf room)
    (lines : List String) : p.serve lines = p := by
  cases lines with
  | nil => rfl
  | cons line more =>
    unfold serve
    split
    · rename_i hlife
      exact absurd hlife hrunning
    · rename_i room hlife
      exact absurd hlife (hdeaf room)
    · rfl

/-- A write that fails leaves nobody who reads. -/
theorem isShut_serve (h : p.accepts = false) (line : String) : (p.serve [line]).isShut = true := by
  rcases life_of_not_accepts h with ⟨room, hlife⟩ | ⟨status, hlife⟩
  · rw [serve_of_deaf hlife]
    rfl
  · rw [serve_of_not_reading (by rw [hlife]; exact nofun) (by rw [hlife]; exact nofun), isShut, hlife]

/-! Reading -/

@[simp] theorem received_play (p : Process) (play : Play) : (p.play play).received = p.received := by
  unfold Process.play
  split <;> rfl

@[simp] theorem piece_play (p : Process) (play : Play) : (p.play play).piece = p.piece := by
  unfold Process.play
  split <;> rfl

@[simp] theorem inbox_play (p : Process) (play : Play) : (p.play play).inbox = p.inbox := by
  unfold Process.play
  split <;> rfl

/-- A process that waits still runs. -/
theorem waiting_play (hlife : p.life = .running) (hwaiting : p.waiting = none) (play : Play)
    (hother : (p.play play).life ≠ .running) : (p.play play).waiting = none := by
  unfold Process.play at hother ⊢
  split
  · rename_i hawaits
    rw [if_pos hawaits] at hother
    exact absurd hlife hother
  · exact hwaiting

/-- A process for which nothing waits reads lines up to the end of its life, up to where it waits, or into the line
within which its input is closed. -/
theorem reads_serve (hinbox : p.inbox = []) (hidle : p.life ≠ .running → p.waiting = none)
    (hpiece : p.readsOn = true → p.piece = []) (lines : List String) : (p.serve lines).Reads (p.read ++ fed lines) := by
  induction lines generalizing p with
  | nil =>
    rw [fed_nil, List.append_nil]
    refine ⟨List.prefix_rfl, fun hreads => ⟨hpiece hreads, ?_⟩, fun _ => hinbox, hidle⟩
    change p.read = fed (p.received ++ p.inbox)
    rw [read, hpiece hreads, hinbox, List.append_nil, List.append_nil]
  | cons line more ih =>
    by_cases hrunning : p.life = .running
    · have hnothing : p.piece = [] := hpiece (by rw [readsOn, hrunning])
      by_cases hwaiting : p.waiting = none
      · -- the line is read, and the others are served to the process behind it
        have hone : p.read ++ fed (line :: more) = read { p with received := p.received ++ [line] } ++ fed more := by
          simp only [read, hnothing, fed_cons, fed_append, fed_nil, List.append_nil, List.append_assoc]
        rw [serve_of_running hrunning hwaiting, hone]
        split
        · exact ⟨List.prefix_append _ _, nofun, fun _ => hinbox, fun _ => hwaiting⟩
        · let q : Process := { p with received := p.received ++ [line] }
          have hplayed := @ih (q.play (p.interpreter.reply q.received)) ((inbox_play _ _).trans hinbox)
            (@waiting_play q hrunning hwaiting _) fun _ => (piece_play _ _).trans hnothing
          rwa [read, received_play, piece_play] at hplayed
      · rw [serve_of_waiting hrunning hwaiting]
        refine ⟨List.prefix_append _ _, fun _ => ⟨hnothing, ?_⟩, fun hnone => absurd hnone hwaiting,
          fun hother => absurd hrunning hother⟩
        change p.read ++ _ = fed (p.received ++ (p.inbox ++ line :: more))
        rw [hinbox, List.nil_append, fed_append, read, hnothing, List.append_nil]
    · by_cases hdeaf : ∃ room, p.life = .deaf room
      · obtain ⟨room, hroom⟩ := hdeaf
        rw [serve_of_deaf hroom]
        refine ⟨?_, nofun, fun _ => hinbox, fun _ => hidle hrunning⟩
        change fed p.received ++ (p.piece ++ p.takes line) <+: p.read ++ fed (line :: more)
        rw [← List.append_assoc, fed_cons]
        exact (List.prefix_append_right_inj _).2 ((takes_line p line).trans (List.prefix_append _ _))
      · rw [serve_of_not_reading hrunning (not_exists.1 hdeaf)]
        refine ⟨List.prefix_append _ _, fun hreads => ?_, fun _ => hinbox, hidle⟩
        rw [readsOn_eq_false hrunning (not_exists.1 hdeaf)] at hreads
        cases hreads

/-- A process that reads on reads what gets through to it, and none but that. -/
theorem Reads.serve (h : p.Reads bytes) (line : String) : (p.serve [line]).Reads (bytes ++ p.takes line) := by
  by_cases hrunning : p.life = .running
  · obtain ⟨hpiece, hbytes⟩ := h.rest (by rw [readsOn, hrunning])
    have htakes : p.takes line = fed [line] := by
      rw [takes, hrunning, fed_cons, fed_nil, List.append_nil]
    by_cases hwaiting : p.waiting = none
    · have hinbox := h.served hwaiting
      have hread : bytes = p.read := by rw [hbytes, hinbox, read, hpiece, List.append_nil, List.append_nil]
      rw [htakes, hread]
      exact reads_serve hinbox h.idle (fun _ => hpiece) [line]
    · rw [serve_of_waiting hrunning hwaiting, htakes]
      refine ⟨h.front.trans (List.prefix_append _ _), fun _ => ⟨hpiece, ?_⟩, fun hnone => absurd hnone hwaiting,
        fun hother => absurd hrunning hother⟩
      change _ = fed (p.received ++ (p.inbox ++ [line]))
      rw [hbytes, ← List.append_assoc, fed_append _ [line]]
  · have hinbox := h.served (h.idle hrunning)
    have hlonger : p.read <+: bytes ++ p.takes line := h.front.trans (List.prefix_append _ _)
    by_cases hdeaf : ∃ room, p.life = .deaf room
    · obtain ⟨room, hroom⟩ := hdeaf
      rw [serve_of_deaf hroom]
      refine ⟨?_, nofun, fun _ => hinbox, fun _ => h.idle hrunning⟩
      change fed p.received ++ (p.piece ++ p.takes line) <+: bytes ++ p.takes line
      rw [← List.append_assoc]
      cases room with
      | zero =>
        have hnone : p.takes line = [] := takes_of_isShut (by rw [isShut, hroom]; rfl) line
        rw [hnone, List.append_nil, List.append_nil]
        exact h.front
      | succ room =>
        obtain ⟨hpiece, hbytes⟩ := h.rest (by rw [readsOn, hroom])
        exact ⟨[], by rw [hbytes, hinbox, hpiece, List.append_nil, List.append_nil, List.append_nil]⟩
    · rw [serve_of_not_reading hrunning (not_exists.1 hdeaf)]
      refine ⟨hlonger, fun hreads => ?_, h.served, h.idle⟩
      rw [readsOn_eq_false hrunning (not_exists.1 hdeaf)] at hreads
      cases hreads

theorem Reads.interrupt (h : p.Reads bytes) : p.interrupt.Reads bytes := by
  cases hwaiting : p.waiting with
  | none =>
    rw [Process.interrupt, hwaiting]
    exact h
  | some play =>
    have hrunning : p.life = .running := by
      refine Decidable.by_contra fun hother => ?_
      rw [h.idle hother] at hwaiting
      cases hwaiting
    obtain ⟨hpiece, hbytes⟩ := h.rest (by rw [readsOn, hrunning])
    have hserve := @reads_serve (Process.perform { p with waiting := none, inbox := [] } play) rfl (fun _ => rfl)
      (fun _ => hpiece) p.inbox
    rw [Process.interrupt, hwaiting, hbytes, fed_append]
    rwa [read, show (Process.perform { p with waiting := none, inbox := [] } play).piece = [] from hpiece,
      List.append_nil] at hserve

end Process

/-! Shutdowns -/

namespace Worker

variable {w : Worker}

/-- A worker that was shut down has ended, by itself or by force. -/
theorem shutdown_ended (w : Worker) : ∃ status, w.shutdown.process.life = .ended status := by
  unfold shutdown
  dsimp only
  split
  · rename_i status hlife
    exact ⟨status, hlife⟩
  · exact ⟨_, rfl⟩

theorem isShut_shutdown (w : Worker) : w.shutdown.process.isShut = true := by
  obtain ⟨status, hlife⟩ := w.shutdown_ended
  rw [Process.isShut, hlife]

theorem nextId_shutdown (w : Worker) : w.shutdown.nextId = w.nextId := by
  unfold shutdown
  dsimp only
  split <;> rfl

theorem reads_shutdown {bytes : List UInt8} (h : w.process.Reads bytes) :
    w.shutdown.process.Reads (bytes ++ w.process.takes Request.shutdownLine) := by
  have hserve := h.serve Request.shutdownLine
  rw [← Process.written_eq] at hserve
  unfold shutdown
  dsimp only
  split
  · exact hserve
  · exact ⟨hserve.front, nofun, fun _ => rfl, fun _ => rfl⟩

end Worker

end ScriptBench
