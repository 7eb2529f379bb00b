import ScriptBench.Proofs.Traffic.Lobby
import ScriptBench.Proofs.Traffic.Session

/-! Any number of calls on the workers of one supervisor, in any order with their watchdogs, with callers and starts,
with shutdowns, and with whatever the interpreters do. -/
namespace ScriptBench

/-- A lobby with its workers and the calls. Calls and workers are known by their number. -/
structure Traffic where
  lobby : Lobby
  /-- The worker that each start makes, if it is ready, and who holds its session. -/
  seats : Nat → Traffic.Seat
  calls : List Traffic.Call
  /-- The workers that shutdowns took away and have not ended yet. -/
  closing : List Nat

/-- A call that crashed forgets its worker, if this is still the live one. -/
def Lobby.afterCall (d : Lobby) (n : Nat) : Except EngineError Reply → Lobby
  | .error (.crashed x) => d.forget n (.crashed x)
  | _ => d

namespace Traffic

def opened (workers : Nat → Worker) : Traffic := ⟨.initial, fun n => ⟨workers n, none⟩, [], []⟩

/-! What the parties do -/

def setSeat (t : Traffic) (n : Nat) (seat : Seat) : Traffic :=
  { t with seats := fun m => if m = n then seat else t.seats m }

/-- A call comes and keeps to the live worker. If there is none, it is over at once. -/
def newCall (live : Option Nat) (job : Job) : Call :=
  match live with
  | some n => ⟨job, some n, .queued, .absent⟩
  | none => ⟨job, none, .done (.error .notReady) false, .absent⟩

def receive (t : Traffic) (job : Job) : Traffic :=
  { t with calls := t.calls ++ [newCall t.lobby.supervisor.live job] }

/-- A step of the lobby. It is calls that report crashes. A worker that a shutdown takes away is ended later. -/
def lobbyStep (t : Traffic) : Lobby.Event → Option Traffic
  | .forget _ _ => none
  | .take => some { t with lobby := t.lobby.take, closing := t.closing ++ t.lobby.supervisor.live.toList }
  | x => (t.lobby.step x).map fun d => { t with lobby := d }

def move (t : Traffic) (c : Nat) (m : Move) : Option Traffic := do
  let call ← t.calls[c]?
  let n ← call.worker?
  let (call', seat) ← call.move c (t.seats n) m
  return { t.setSeat n seat with calls := t.calls.set c call' }

/-- A call that has left the session reports its result. -/
def report (t : Traffic) (c : Nat) : Option Traffic := do
  let call ← t.calls[c]?
  let n ← call.worker?
  match call.stage with
  | .left r b =>
    return { t with lobby := t.lobby.afterCall n r, calls := t.calls.set c { call with stage := .done r b } }
  | _ => none

/-- A shutdown ends a worker that it took away, once the session is free. -/
def close (t : Traffic) (n : Nat) : Option Traffic :=
  if n ∈ t.closing ∧ (t.seats n).holder? = none then
    some { t.setSeat n ⟨(t.seats n).worker.shutdown, none⟩ with closing := t.closing.erase n }
  else none

/-- The process of a worker becomes another one, whatever it was. -/
def plays (t : Traffic) (n : Nat) (p : Process) : Traffic :=
  t.setSeat n ⟨{ (t.seats n).worker with process := p }, (t.seats n).holder?⟩

inductive Event where
  | lobby (x : Lobby.Event)
  | call (job : Job)
  | move (call : Nat) (m : Move)
  | report (call : Nat)
  | close (worker : Nat)
  | plays (worker : Nat) (p : Process)

/-- One step, if it can be made. -/
def step (t : Traffic) : Event → Option Traffic
  | .lobby x => t.lobbyStep x
  | .call job => some (t.receive job)
  | .move c m => t.move c m
  | .report c => t.report c
  | .close n => t.close n
  | .plays n p => some (t.plays n p)

def run (t : Traffic) (events : List Event) : Option Traffic := events.foldlM step t

/-- The moves of a call and its watchdog. -/
def movesOf (c : Nat) (events : List Event) : List Move :=
  events.filterMap fun
    | .move c' m => if c' = c then some m else none
    | _ => none

/-- What a caller gets in the end. -/
def Call.outcome? (call : Call) : Option Outcome :=
  match call.stage with
  | .done r b => some (.ofExchange b r)
  | _ => none

variable {t t' t'' : Traffic} {c n : Nat} {x : Event} {m : Move}

/-! Runs -/

@[simp] theorem run_nil (t : Traffic) : t.run [] = some t := rfl

theorem run_cons_eq_some_iff {events : List Event} :
    t.run (x :: events) = some t'' ↔ ∃ t', t.step x = some t' ∧ t'.run events = some t'' := by
  unfold run
  rw [List.foldlM_cons]
  exact Option.bind_eq_some_iff

theorem run_append_eq_some_iff {first later : List Event} :
    t.run (first ++ later) = some t'' ↔ ∃ t', t.run first = some t' ∧ t'.run later = some t'' := by
  unfold run
  rw [List.foldlM_append]
  exact Option.bind_eq_some_iff

/-- What each step keeps, given what happened before, is kept by every run. -/
theorem run_induction {P : List Event → Traffic → Prop} {before events : List Event}
    (hstep : ∀ past t t' x, P past t → t.step x = some t' → P (past ++ [x]) t') (ht : P before t)
    (h : t.run events = some t') : P (before ++ events) t' := by
  induction events generalizing before t with
  | nil =>
    cases h
    rw [List.append_nil]
    exact ht
  | cons x events ih =>
    obtain ⟨t₁, hx, hrest⟩ := run_cons_eq_some_iff.1 h
    have hbehind := ih (hstep before t t₁ x ht hx) hrest
    rw [List.append_assoc] at hbehind
    exact hbehind

theorem run_kept {P : Traffic → Prop} {events : List Event} (hstep : ∀ t t' x, P t → t.step x = some t' → P t')
    (ht : P t) (h : t.run events = some t') : P t' :=
  @run_induction t t' (fun _ => P) [] events (fun _ => hstep) ht h

theorem movesOf_concat (c : Nat) (events : List Event) (x : Event) :
    movesOf c (events ++ [x]) = movesOf c events ++ movesOf c [x] := List.filterMap_append

@[simp] theorem movesOf_move_self (c : Nat) (m : Move) : movesOf c [.move c m] = [m] := by
  simp [movesOf]

theorem movesOf_move_of_ne {c' : Nat} (h : c' ≠ c) (m : Move) : movesOf c [.move c' m] = [] := by
  simp [movesOf, h]

/-! What each step can do -/

@[simp] theorem seats_setSeat_self (t : Traffic) (n : Nat) (seat : Seat) : (t.setSeat n seat).seats n = seat :=
  if_pos rfl

theorem seats_setSeat_of_ne {n' : Nat} (h : n' ≠ n) (t : Traffic) (seat : Seat) :
    (t.setSeat n seat).seats n' = t.seats n' := if_neg h

theorem move_eq_some_iff :
    t.move c m = some t' ↔ ∃ call n call' seat, t.calls[c]? = some call ∧ call.worker? = some n ∧
      call.move c (t.seats n) m = some (call', seat) ∧
      t' = { t.setSeat n seat with calls := t.calls.set c call' } := by
  unfold move
  simp only [Option.bind_eq_bind, Option.bind_eq_some_iff, Option.pure_def, Option.some.injEq, Prod.exists]
  constructor
  · rintro ⟨call, hcall, n, hn, call', seat, hmove, rfl⟩
    exact ⟨call, n, call', seat, hcall, hn, hmove, rfl⟩
  · rintro ⟨call, n, call', seat, hcall, hn, hmove, rfl⟩
    exact ⟨call, hcall, n, hn, call', seat, hmove, rfl⟩

theorem report_eq_some_iff :
    t.report c = some t' ↔ ∃ call n r b, t.calls[c]? = some call ∧ call.worker? = some n ∧
      call.stage = .left r b ∧
      t' = { t with lobby := t.lobby.afterCall n r, calls := t.calls.set c { call with stage := .done r b } } := by
  unfold report
  simp only [Option.bind_eq_bind, Option.bind_eq_some_iff, Option.pure_def]
  constructor
  · rintro ⟨call, hcall, n, hn, h⟩
    split at h
    · rename_i r b hstage
      cases h
      exact ⟨call, n, r, b, hcall, hn, hstage, rfl⟩
    · cases h
  · rintro ⟨call, n, r, b, hcall, hn, hstage, rfl⟩
    refine ⟨call, hcall, n, hn, ?_⟩
    rw [hstage]

theorem close_eq_some_iff :
    t.close n = some t' ↔ n ∈ t.closing ∧ (t.seats n).holder? = none ∧
      t' = { t.setSeat n ⟨(t.seats n).worker.shutdown, none⟩ with closing := t.closing.erase n } := by
  unfold close
  split
  · rename_i hclose
    simp [hclose, eq_comm]
  · rename_i hclose
    simp only [reduceCtorEq, false_iff, not_and]
    intro hn hfree
    exact absurd ⟨hn, hfree⟩ hclose

/-- A step of the lobby is one that is not the forgetting of a worker. Nothing else changes but what is to be closed. -/
theorem lobbyStep_eq_some {y : Lobby.Event} (h : t.lobbyStep y = some t') :
    (∀ w reason, y ≠ .forget w reason) ∧ t.lobby.step y = some t'.lobby ∧ t'.seats = t.seats ∧ t'.calls = t.calls := by
  cases y with
  | forget w reason => cases h
  | take =>
    cases h
    exact ⟨nofun, rfl, rfl, rfl⟩
  | arrive | installed | launched | failed | serve =>
    obtain ⟨d, hd, rfl⟩ := Option.map_eq_some_iff.1 h
    exact ⟨nofun, hd, rfl, rfl⟩

end Traffic

end ScriptBench
