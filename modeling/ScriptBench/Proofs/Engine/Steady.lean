import ScriptBench.Proofs.Engine.Answering
import ScriptBench.Proofs.Engine.Supervisor
import ScriptBench.Proofs.Execution.Exchange

/-! Interpreters whose reaction to a request depends on its program alone. An engine that has started one gives each
program the outcome of its own reaction, whatever it ran before, until a reaction makes the interpreter leave. -/
namespace ScriptBench

open Json Text

/-- What an interpreter does about a program. -/
inductive Reaction where
  | replies (r : Reply)
  | refuses (message : String)
  /-- It ends with a status, or closes its output. -/
  | leaves (status? : Option ExitStatus)
  deriving DecidableEq, Repr

namespace Reaction

def crashes : Reaction → Bool
  | .leaves _ => true
  | _ => false

/-- The outcome of a program with this reaction. -/
def outcome : Reaction → Outcome
  | .replies r => .ofReply r false
  | .refuses message => .ofError (.rejected message)
  | .leaves status? => .ofError (.crashed (.ofEnd status?))

/-- A play shows a reaction to the request with a number: it is one line that can be read as that, or the interpreter
leaves without one. -/
def ShownBy (id : Nat) (play : Play) : Reaction → Prop
  | .replies r => ∃ line, play.Says line ∧ Message.ofLine? line = some (.result { r with id? := some id })
  | .refuses message => ∃ line, play.Says line ∧ Message.ofLine? line = some (.invalid message)
  | .leaves status? => play = .leave status?

/-- The play of an interpreter that writes as the driver does. -/
def play (id : Nat) : Reaction → Play
  | .replies r => .say (r.toJson id).line
  | .refuses message => .say (Message.refusal message).line
  | .leaves status? => .leave status?

end Reaction

/-- An interpreter says one line when it starts, and its reaction to a request depends on the program alone, whatever
it has read before. -/
structure Interpreter.Steady (react : String → Reaction) (i : Interpreter) : Prop where
  hello : ∃ line, i.hello.Says line
  reply : ∀ (requests : List String) (r : Request), r.id < UInt64.size →
    (react r.code).ShownBy r.id (i.reply (requests ++ [r.line]))

namespace Engine

/-- An engine behind the start of an interpreter, which has become ready. -/
def Started (i : Interpreter) (e : Engine) : Prop :=
  ∃ (e₀ : Engine) (n : Nat), e₀.starting = some (.start i) ∧ e₀.complete = (.ok n, e)

/-- The worker `w`, which stands behind the old ones, is live, and its interpreter has nothing unread. -/
structure Ready (react : String → Reaction) (old : List Worker) (w : Worker) (e : Engine) : Prop where
  live : e.supervisor.live = some old.length
  workers : e.workers = old ++ [w]
  steady : w.process.interpreter.Steady react
  running : w.process.life = .running
  idle : w.process.waiting = none
  unread : w.process.unread = []

variable {e : Engine} {react : String → Reaction} {old : List Worker} {w : Worker}

theorem Ready.worker? (h : e.Ready react old w) : e.worker? old.length = some w := by
  rw [Engine.worker?, h.workers, List.getElem?_append_right (Nat.le_refl _), Nat.sub_self]
  rfl

theorem Ready.setWorker_workers (h : e.Ready react old w) (w' : Worker) :
    (e.setWorker old.length w').workers = old ++ [w'] := by
  rw [setWorker, h.workers, List.set_append_right _ _ (Nat.le_refl _), Nat.sub_self]
  rfl

theorem Ready.attends (h : e.Ready react old w) (id : Nat) : w.process.Attends id :=
  Process.attends_of_nothing h.running h.idle h.unread id

theorem Ready.received_setWorker (h : e.Ready react old w) {w' : Worker} {line : String}
    (hreceived : w'.process.received = w.process.received ++ [line]) :
    (e.setWorker old.length w').received = e.received ++ [line] := by
  simp only [received, h.setWorker_workers, h.workers, List.flatMap_append, List.flatMap_singleton, hreceived,
    List.append_assoc]

theorem afterCall_of_answers {id n : Nat} {line : String} {a : Except EngineError Reply} (h : Answers id line a) :
    e.afterCall n a = e := by
  cases h <;> rfl

section

variable {options : RunOptions} {source : String} {library? : Option String}

/-- What a call leaves behind an engine that was ready: the interpreter has read one more request, and the engine is
ready again unless the interpreter has left. -/
structure Ran (react : String → Reaction) (old : List Worker) (w : Worker) (r : Request) (e e' : Engine) : Prop where
  received : e'.received = e.received ++ [r.line]
  gone : (react r.code).crashes = true → e'.supervisor.live = none
  ready : (react r.code).crashes = false → e'.Ready react old (w.past r)

theorem Ready.run_of_answer (h : e.Ready react old w) {line : String} {a : Except EngineError Reply}
    (hsaid : (w.process.interpreter.reply
      (w.process.received ++ [(w.request source library? options.module).line])).Says line)
    (ha : Answers w.nextId line a) (hstays : (react source).crashes = false) :
    ∃ e', e.run options source library? = some (.ofExchange false a, e') ∧
      e.Ran react old w (w.request source library? options.module) e' := by
  have hexec : w.exec options.timeout?.isSome source library? options.module =
      some (a, w.past (w.request source library? options.module)) :=
    Worker.exec_of_said (h.attends w.nextId) hsaid ha
  have hset : (w.past (w.request source library? options.module)).interrupted = false := by
    cases hcell : w.cell? <;> simp [Worker.past, Worker.begin, Worker.interrupted, hcell, InterruptCell.reset,
      InterruptCell.isSet, InterruptCell.clear, InterruptCell.interrupt]
  have hx : e.Exchanged options source library? old.length a _ := ⟨h.live, w, h.worker?, hexec⟩
  have hcall := run_eq_some_iff.2 (.inr ⟨_, _, _, hx, rfl, rfl⟩)
  rw [hset, afterCall_of_answers ha] at hcall
  refine ⟨_, hcall, h.received_setWorker rfl, fun hcrash => ?_, fun _ => ?_⟩
  · change (react source).crashes = true at hcrash
    rw [hstays] at hcrash
    cases hcrash
  · exact ⟨h.live, h.setWorker_workers _, h.steady, h.running, h.idle, rfl⟩

theorem Ready.run_of_leave (h : e.Ready react old w) {status? : Option ExitStatus}
    (hplay : w.process.interpreter.reply
      (w.process.received ++ [(w.request source library? options.module).line]) = .leave status?)
    (hleaves : (react source).crashes = true) :
    ∃ e', e.run options source library? = some (.ofError (.crashed (.ofEnd status?)), e') ∧
      e.Ran react old w (w.request source library? options.module) e' := by
  obtain ⟨w', hexec, hreceived⟩ := @Worker.exec_of_leave w options.timeout?.isSome source library? options.module
    status? (h.attends w.nextId) hplay
  have hx : e.Exchanged options source library? old.length (.error (.crashed (.ofEnd status?))) w' :=
    ⟨h.live, w, h.worker?, hexec⟩
  have hcall := run_eq_some_iff.2 (.inr ⟨_, _, _, hx, rfl, rfl⟩)
  refine ⟨_, hcall, h.received_setWorker hreceived, fun _ => ?_, fun hstays => ?_⟩
  · change (e.supervisor.forget old.length (.crashed (.ofEnd status?))).live = none
    rw [Supervisor.forget_of_live h.live]
  · change (react source).crashes = false at hstays
    rw [hleaves] at hstays
    cases hstays

/-- A program has the outcome of its own reaction, whatever was run before. -/
theorem Ready.run (h : e.Ready react old w) (hid : w.nextId < UInt64.size) (options : RunOptions) (source : String)
    (library? : Option String) :
    ∃ e', e.run options source library? = some ((react source).outcome, e') ∧
      e.Ran react old w (w.request source library? options.module) e' := by
  have hshown := h.steady.reply w.process.received (w.request source library? options.module) hid
  change (react source).ShownBy w.nextId _ at hshown
  cases hreact : react source with
  | replies r =>
    rw [hreact] at hshown
    obtain ⟨line, hsaid, hline⟩ := hshown
    exact h.run_of_answer hsaid (.result hline rfl) (by rw [hreact]; rfl)
  | refuses message =>
    rw [hreact] at hshown
    obtain ⟨line, hsaid, hline⟩ := hshown
    exact h.run_of_answer hsaid (.rejected hline) (by rw [hreact]; rfl)
  | leaves status? =>
    rw [hreact] at hshown
    exact h.run_of_leave hshown (by rw [hreact]; rfl)

end

/-! Starting -/

theorem hear_of_handshake {budget : Nat} {p p' : Process} {version : String}
    (h : handshake budget p = .ok (version, p')) : ∃ text, p.hear = (.line text, p') := by
  unfold handshake at h
  split at h
  · cases h
  · split at h
    · rename_i text _ hhear
      split at h
      · cases h
        exact ⟨text, hhear⟩
      · cases h
    all_goals cases h

theorem hear_start {i : Interpreter} {line : String} (h : i.hello.Says line) :
    (Process.start i).hear = (.line line, ⟨i, [], [], [], none, [], .running⟩) := by
  obtain ⟨row, hrow, rfl, hhello⟩ := h
  have hstart : Process.start i = ⟨i, [], [], [], none, bytes row ++ [10], .running⟩ := by
    rw [Process.start, hhello, Process.play_of_goesOn, List.nil_append]
  rw [hstart, Process.hear, hear_row hrow]

/-- An engine is ready behind a start, and its next request is the first one. -/
theorem ready_of_started {i : Interpreter} (hi : i.Steady react) (h : e.Started i) :
    ∃ old w, e.Ready react old w ∧ w.nextId = 1 := by
  obtain ⟨e₀, n, hstarting, hcomplete⟩ := h
  obtain ⟨line, hhello⟩ := hi.hello
  simp only [complete, hstarting] at hcomplete
  split at hcomplete
  · cases hcomplete
  · rename_i version p hshake
    obtain ⟨text, hhear⟩ := hear_of_handshake hshake
    rw [hear_start hhello] at hhear
    cases hhear
    cases hcomplete
    exact ⟨e₀.workers, _, ⟨rfl, rfl, hi, rfl, rfl, rfl⟩, rfl⟩

theorem install_same (m : Machine) (directory : String) :
    (m.install directory).2.supply = m.supply ∧ (m.install directory).2.started = m.started := by
  unfold Machine.install
  split
  exact ⟨rfl, rfl⟩

theorem start_of_spawn {m m' : Machine} {program : String} {p : Process} (h : m.spawn program = (.ok p, m')) :
    p = .start (m.supply m.started) := by
  unfold Machine.spawn at h
  split at h
  all_goals cases h
  rfl

theorem launch_cases (e : Engine) :
    (∃ f e', e.launch = (some (.error f), e')) ∨
    ∃ e', e.launch = (none, e') ∧ e'.starting = some (.start (e.machine.supply e.machine.started)) := by
  unfold launch
  split
  · exact .inl ⟨_, _, rfl⟩
  · rename_i path m hinstall
    have hsame := install_same e.machine e.config.directory
    rw [hinstall] at hsame
    dsimp only
    split
    · exact .inl ⟨_, _, rfl⟩
    · rename_i p m' hspawn
      refine .inr ⟨_, rfl, ?_⟩
      rw [← hsame.1, ← hsame.2, ← start_of_spawn hspawn]

/-- A caller for whom the driver is written and an interpreter is started waits for that one. -/
theorem exists_arrive {e : Engine} {path : Path} {m m' : Machine} {p : Process}
    (hlive : e.supervisor.live = none) (hflight : e.supervisor.inFlight = false)
    (hinstall : e.machine.install e.config.directory = (.ok path, m)) (hspawn : m.spawn e.config.python = (.ok p, m')) :
    ∃ e', e.arrive = (none, e') ∧ e'.starting = some p ∧ e'.config = e.config := by
  unfold arrive
  rw [Supervisor.request_of_idle hlive hflight]
  dsimp only
  unfold launch
  dsimp only
  rw [hinstall]
  dsimp only
  rw [hspawn]
  exact ⟨_, rfl, rfl, rfl⟩

/-- A caller for whom an interpreter is started gets the worker of the next interpreter of the machine. -/
theorem started_of_acquire {e₀ : Engine} {n : Nat} (hlive : e₀.supervisor.live = none)
    (hflight : e₀.supervisor.inFlight = false) (h : e₀.acquire = (.ok n, e)) :
    e.Started (e₀.machine.supply e₀.machine.started) := by
  unfold acquire arrive at h
  rw [Supervisor.request_of_idle hlive hflight] at h
  dsimp only at h
  rcases launch_cases { e₀ with supervisor := { e₀.supervisor with
    inFlight := true, loading := true, lastError := none, starts := e₀.supervisor.starts + 1 } } with
    ⟨f, e₁, hlaunch⟩ | ⟨e₁, hlaunch, hstarting⟩
  · rw [hlaunch] at h
    cases h
  · rw [hlaunch] at h
    exact ⟨e₁, n, hstarting, h⟩

end Engine

/-- The line that an interpreter says when it starts. -/
def Message.greeting : Value := .object [("type", .string "ready"), ("version", .string "3.12"), ("pid", .nat 7)]

theorem Message.printed_greeting : greeting.Printed := by
  refine printed_object fun m hm => ?_
  simp only [List.mem_cons, List.not_mem_nil, or_false] at hm
  rcases hm with rfl | rfl | rfl
  · exact printed_text "ready"
  · exact printed_text "3.12"
  · exact printed_nat (by decide)

theorem Message.ofLine?_greeting : ofLine? greeting.line = some (.ready "3.12" 7) := by
  rw [ofLine?_line printed_greeting (by decide)]
  rfl

/-- The interpreter with certain reactions. It reads the number and the program from a request line. -/
def Interpreter.ofReactions (react : String → Reaction) : Interpreter where
  hello := .say Message.greeting.line
  reply requests :=
    match (Value.parse (requests.getLast?.getD "")).toOption with
    | some (.object members) =>
      match members.lookup "id", members.lookup "code" with
      | some (.number (.int id)), some (.string code) => (react code).play id.toNat
      | _, _ => .leave none
    | _ => .leave none

theorem Reaction.shownBy_play {id : Nat} (hid : id < UInt64.size) (reaction : Reaction) :
    reaction.ShownBy id (reaction.play id) := by
  cases reaction with
  | replies r =>
    have hprinted := Reply.printed_toJson hid r
    exact ⟨_, says_line hprinted, Reply.ofLine?_line hid r⟩
  | refuses message => exact ⟨_, says_line (Message.printed_refusal message), Message.ofLine?_refusal message⟩
  | leaves status? => rfl

theorem Interpreter.steady_ofReactions (react : String → Reaction) : (ofReactions react).Steady react where
  hello := ⟨_, says_line Message.printed_greeting⟩
  reply requests r hid := by
    have hlast : (requests ++ [r.line]).getLast?.getD "" = r.line := by
      rw [List.getLast?_concat]
      rfl
    have hplay : (ofReactions react).reply (requests ++ [r.line]) = (react r.code).play r.id := by
      simp only [ofReactions, hlast, Request.parse_line hid]
      rfl
    rw [hplay]
    exact Reaction.shownBy_play hid (react r.code)

/-- The interpreter becomes ready, unless it is given no time at all. -/
theorem Engine.exists_complete {e : Engine} (react : String → Reaction)
    (hstarting : e.starting = some (.start (.ofReactions react))) (hbudget : e.config.startupBudget ≠ 0) :
    ∃ e', e.complete = (.ok e.workers.length, e') := by
  have hhear := @hear_start (.ofReactions react) _ (says_line Message.printed_greeting)
  have hshake : handshake e.config.startupBudget (.start (.ofReactions react)) =
      .ok ("3.12", ⟨.ofReactions react, [], [], [], none, [], .running⟩) := by
    rw [handshake, if_neg hbudget, hhear]
    dsimp only
    rw [Message.ofLine?_greeting]
  simp only [complete, hstarting, hshake]
  exact ⟨_, rfl⟩

end ScriptBench
