import ScriptBench.Proofs.Engine.Input
import ScriptBench.Proofs.Engine.Steady
import ScriptBench.Proofs.Traffic.Orderly

/-! What gets through to each worker in a run: whole lines, and pieces of lines whose writing fails. Its process reads
these bytes from their front on, as long as nothing happens to it from outside. -/
namespace ScriptBench

open Text

/-- A worker to which nothing was written yet. -/
structure Worker.IsNew (w : Worker) : Prop where
  nextId : w.nextId = 1
  received : w.process.received = []
  piece : w.process.piece = []
  inbox : w.process.inbox = []
  idle : w.process.life ≠ .running → w.process.waiting = none

theorem Worker.IsNew.reads {w : Worker} (h : w.IsNew) : w.process.Reads [] := by
  have hread : w.process.read = [] := by rw [Process.read, h.received, h.piece]; rfl
  refine ⟨⟨[], by rw [hread, List.append_nil]⟩, fun _ => ⟨h.piece, ?_⟩, fun _ => h.inbox, h.idle⟩
  rw [h.received, h.inbox]
  rfl

/-- Every worker that is started is new. -/
theorem Worker.isNew_of_handshake {budget : Nat} {i : Interpreter} {version : String} {p : Process}
    (h : handshake budget (.start i) = .ok (version, p)) (cell? : Option InterruptCell) :
    IsNew ⟨p, version, cell?, 1⟩ := by
  obtain ⟨text, hhear⟩ := Engine.hear_of_handshake h
  obtain rfl : (Process.start i).hear.2 = p := congrArg Prod.snd hhear
  exact ⟨rfl, Process.received_play _ _, Process.piece_play _ _, Process.inbox_play _ _,
    Process.waiting_play (p := ⟨i, [], [], [], none, [], .running⟩) rfl rfl _⟩

namespace Traffic

/-- A line that a call or a shutdown writes to a worker. -/
inductive Letter where
  | request (call : Nat) (r : Request)
  | shutdown
  deriving DecidableEq

/-- What gets through of a line to a worker. -/
structure Delivery where
  letter : Letter
  bytes : List UInt8
  deriving DecidableEq

namespace Letter

def line : Letter → String
  | .request _ r => r.line
  | .shutdown => Request.shutdownLine

def call? : Letter → Option Nat
  | .request c _ => some c
  | .shutdown => none

/-- The line with its feed. -/
def bytes (l : Letter) : List UInt8 := encodeUtf8 l.line ++ [10]

def whole (l : Letter) : Delivery := ⟨l, l.bytes⟩

/-- What gets through of a line to a process, unless nothing does. -/
def reaching (l : Letter) (p : Process) : List Delivery :=
  if p.takes l.line = [] then [] else [⟨l, p.takes l.line⟩]

end Letter

/-- The request that a call writes to a worker when it sends. -/
def posted? (t : Traffic) (c n : Nat) : Option Request := do
  let call ← t.calls[c]?
  match call.stage with
  | .armed id => if call.worker? = some n then return call.request id else none
  | _ => none

/-- The line that a step writes to a worker. -/
def letter? (t : Traffic) (n : Nat) : Event → Option Letter
  | .move c .send => (t.posted? c n).map (.request c)
  | .close m => if m = n then some .shutdown else none
  | _ => none

/-- What a step gets through to a worker. -/
def deliveries (t : Traffic) (n : Nat) (x : Event) : List Delivery :=
  (t.letter? n x).elim [] (·.reaching (t.seats n).worker.process)

/-- What gets through to a worker in a run. -/
def mail (t : Traffic) (n : Nat) : List Event → List Delivery
  | [] => []
  | x :: events =>
    t.deliveries n x ++ match t.step x with
      | some t' => t'.mail n events
      | none => []

/-- Whether a step is one of an interpreter: it does something by itself, or takes an interrupt. -/
def Event.IsPlayed : Event → Bool
  | .plays _ _ | .move _ .strike => true
  | _ => false

/-- Whether nothing gets through to a worker any more. -/
def isShut (t : Traffic) (n : Nat) : Bool := (t.seats n).worker.process.isShut

/-- An interpreter never opens its input again, once it is closed. -/
def StaysShut (t : Traffic) (n : Nat) : List Event → Prop
  | [] => True
  | x :: events => ∀ t', t.step x = some t' →
      (x.IsPlayed = true → t.isShut n = true → t'.isShut n = true) ∧ t'.StaysShut n events

variable {t t' : Traffic} {past : List Event} {c n : Nat} {call : Call} {x : Event} {l : Letter} {d : Delivery}
  {p : Process} {id : Nat}

/-! What gets through of a line -/

theorem Letter.bytes_ne_nil (l : Letter) : l.bytes ≠ [] := List.append_ne_nil_of_right_ne_nil _ (List.cons_ne_nil _ _)

theorem Letter.reaching_of_accepts (h : p.accepts = true) (l : Letter) : l.reaching p = [l.whole] := by
  rw [reaching, Process.takes_of_accepts h]
  exact if_neg l.bytes_ne_nil

theorem Letter.reaching_of_isShut (h : p.isShut = true) (l : Letter) : l.reaching p = [] :=
  if_pos (Process.takes_of_isShut h l.line)

/-- What gets through of a line is all of it, or a piece of it without its feed. -/
theorem Letter.eq_of_mem_reaching (h : d ∈ l.reaching p) :
    d.letter = l ∧ l.reaching p = [d] ∧ p.isShut = false ∧
      (p.accepts = true ∧ d = l.whole ∨ p.accepts = false ∧ d.bytes ≠ [] ∧ d.bytes <+: encodeUtf8 l.line) := by
  have hopen : p.isShut = false := by
    refine Bool.eq_false_iff.2 fun hshut => ?_
    rw [reaching_of_isShut hshut] at h
    cases h
  cases haccepts : p.accepts with
  | true =>
    rw [reaching_of_accepts haccepts] at h ⊢
    obtain rfl := List.mem_singleton.1 h
    exact ⟨rfl, rfl, hopen, .inl ⟨rfl, rfl⟩⟩
  | false =>
    unfold reaching at h ⊢
    split at h
    · cases h
    · rename_i hne
      obtain rfl := List.mem_singleton.1 h
      exact ⟨rfl, if_neg hne, hopen, .inr ⟨rfl, hne, Process.takes_of_not_accepts haccepts l.line⟩⟩

theorem Letter.flatMap_reaching (l : Letter) (p : Process) : (l.reaching p).flatMap Delivery.bytes = p.takes l.line := by
  unfold reaching
  split
  · rename_i hnone
    exact hnone.symm
  · exact List.flatMap_singleton _ _

/-! What a step writes -/

theorem posted?_eq_some_iff {r : Request} :
    t.posted? c n = some r ↔ ∃ call id, t.Has c n call ∧ call.stage = .armed id ∧ r = call.request id := by
  unfold posted?
  constructor
  · intro h
    obtain ⟨call, hget, h⟩ := Option.bind_eq_some_iff.1 h
    split at h
    · rename_i id hstage
      split at h
      · rename_i hkeeps
        cases h
        exact ⟨call, id, ⟨hget, hkeeps⟩, hstage, rfl⟩
      · cases h
    · cases h
  · rintro ⟨call, id, hhas, hstage, rfl⟩
    refine Option.bind_eq_some_iff.2 ⟨call, hhas.get, ?_⟩
    rw [hstage]
    exact if_pos hhas.keeps

/-- A line is written by a call that sends, or by a shutdown. -/
theorem letter?_eq_some (h : t.letter? n x = some l) :
    (∃ c call id, x = .move c .send ∧ t.Has c n call ∧ call.stage = .armed id ∧
      l = .request c (call.request id)) ∨ x = .close n ∧ l = .shutdown := by
  unfold letter? at h
  split at h
  · rename_i c
    obtain ⟨r, hposted, rfl⟩ := Option.map_eq_some_iff.1 h
    obtain ⟨call, id, hhas, hstage, rfl⟩ := posted?_eq_some_iff.1 hposted
    exact .inl ⟨c, call, id, rfl, hhas, hstage, rfl⟩
  · split at h
    · rename_i m hm
      cases h
      exact .inr ⟨by rw [hm], rfl⟩
    · cases h
  · cases h

theorem letter?_send (hhas : t.Has c n call) (hstage : call.stage = .armed id) :
    t.letter? n (.move c .send) = some (.request c (call.request id)) :=
  Option.map_eq_some_iff.2 ⟨_, posted?_eq_some_iff.2 ⟨call, id, hhas, hstage, rfl⟩, rfl⟩

theorem letter?_move_of_ne {m : Move} (h : m ≠ .send) : t.letter? n (.move c m) = none := by
  cases m with
  | send => exact absurd rfl h
  | _ => rfl

theorem letter?_move_elsewhere {m : Move} {n' : Nat} (hhas : t.Has c n' call) (hn : n ≠ n') :
    t.letter? n (.move c m) = none := by
  refine Option.eq_none_iff_forall_ne_some.2 fun l h => ?_
  rcases letter?_eq_some h with ⟨c', call', id, heq, hhas', _⟩ | ⟨heq, _⟩
  · cases heq
    exact hn (hhas'.unique hhas).1
  · cases heq

theorem letter?_close (t : Traffic) (n : Nat) : t.letter? n (.close n) = some .shutdown := if_pos rfl

theorem letter?_close_of_ne {m : Nat} (h : m ≠ n) : t.letter? n (.close m) = none := if_neg h

theorem deliveries_of_none (h : t.letter? n x = none) : t.deliveries n x = [] := by
  rw [deliveries, h]
  rfl

theorem deliveries_of_some (h : t.letter? n x = some l) :
    t.deliveries n x = l.reaching (t.seats n).worker.process := by
  rw [deliveries, h]
  rfl

/-- A step gets one line through at most, and then something is open. -/
theorem mem_deliveries (h : d ∈ t.deliveries n x) :
    t.letter? n x = some d.letter ∧ t.deliveries n x = [d] ∧ t.isShut n = false := by
  cases hletter : t.letter? n x with
  | none =>
    rw [deliveries_of_none hletter] at h
    cases h
  | some l =>
    rw [deliveries_of_some hletter] at h ⊢
    obtain ⟨rfl, honly, hopen, _⟩ := Letter.eq_of_mem_reaching h
    exact ⟨rfl, honly, hopen⟩

/-! The process of a worker -/

/-- What a step does to the process of a worker, given the line that it writes. -/
inductive Handled (n : Nat) (w : Worker) : Event → Option Letter → Process → Prop where
  | quiet (x : Event) (unread : List UInt8) : Handled n w x none { w.process with unread := unread }
  | sent (c : Nat) (r : Request) : Handled n w (.move c .send) (some (.request c r)) (w.process.serve [r.line])
  | struck (c : Nat) : Handled n w (.move c .strike) none w.process.interrupt
  | closed : Handled n w (.close n) (some .shutdown) w.shutdown.process
  | played (p : Process) : Handled n w (.plays n p) none p

theorem handled_of_same (hseat : t'.seats n = t.seats n) (hletter : t.letter? n x = none) :
    Handled n (t.seats n).worker x (t.letter? n x) (t'.seats n).worker.process := by
  rw [hseat, hletter]
  exact .quiet x _

theorem exists_unread_of_listen {w w' : Worker} {l : Listened} (h : w.listen id = (l, w')) :
    ∃ unread, w' = { w with process := { w.process with unread := unread } } := by
  cases h
  exact ⟨_, rfl⟩

theorem eq_of_sent {w w' : Worker} {r : Request} (h : w.send r = .ok w') :
    w.process.accepts = true ∧ w' = { w with process := w.process.serve [r.line] } := by
  unfold Worker.send at h
  split at h
  · rename_i p hsend
    cases h
    have haccepts := Process.accepts_of_send hsend
    rw [Process.send_of_accepts haccepts] at hsend
    cases hsend
    exact ⟨haccepts, rfl⟩
  · cases h

theorem eq_of_unsent {w w' : Worker} {r : Request} {e : EngineError} (h : w.send r = .error (e, w')) :
    w.process.accepts = false ∧ e = .crashed (.notWritten .brokenPipe) ∧
      w' = { w with process := w.process.serve [r.line] } := by
  unfold Worker.send at h
  split at h
  · cases h
  · rename_i e' p hsend
    cases h
    have haccepts := Process.not_accepts_of_send hsend
    rw [Process.send_of_not_accepts haccepts] at hsend
    cases hsend
    exact ⟨haccepts, rfl, rfl⟩

theorem handled_move {m : Move} {call' : Call} {seat : Seat} (hhas : t.Has c n call)
    (hmoved : Call.Moved c call (t.seats n) m call' seat) :
    Handled n (t.seats n).worker (.move c m) (t.letter? n (.move c m)) seat.worker.process := by
  cases hmoved with
  | sent id w hstage hsent =>
    obtain ⟨_, rfl⟩ := eq_of_sent hsent
    rw [letter?_send hhas hstage]
    exact .sent c _
  | unsent id e w hstage hunsent =>
    obtain ⟨_, _, rfl⟩ := eq_of_unsent hunsent
    rw [letter?_send hhas hstage]
    exact .sent c _
  | heard id r w hstage hheard =>
    obtain ⟨unread, rfl⟩ := exists_unread_of_listen hheard
    exact .quiet _ unread
  | silent id w hstage hsilent =>
    obtain ⟨unread, rfl⟩ := exists_unread_of_listen hsilent
    exact .quiet _ unread
  | strike hfiring => exact .struck c
  | _ => exact .quiet _ _

theorem handled_step (ht : t.step x = some t') (n : Nat) :
    Handled n (t.seats n).worker x (t.letter? n x) (t'.seats n).worker.process := by
  cases x with
  | lobby y =>
    obtain ⟨_, _, hseats, _⟩ := lobbyStep_eq_some ht
    exact handled_of_same (congrFun hseats n) rfl
  | call job =>
    cases ht
    exact handled_of_same rfl rfl
  | move c m =>
    obtain ⟨old, n', call, seat, hget, hkeeps, hmove, rfl⟩ := move_eq_some_iff.1 ht
    by_cases hn : n = n'
    · subst hn
      have hhandled := handled_move ⟨hget, hkeeps⟩ (Call.moved_of_move hmove)
      rwa [← seats_setSeat_self t n seat] at hhandled
    · exact handled_of_same (seats_setSeat_of_ne hn t seat) (letter?_move_elsewhere ⟨hget, hkeeps⟩ hn)
  | report c =>
    obtain ⟨_, _, _, _, _, _, _, rfl⟩ := report_eq_some_iff.1 ht
    exact handled_of_same rfl rfl
  | close m =>
    obtain ⟨_, _, rfl⟩ := close_eq_some_iff.1 ht
    by_cases hn : n = m
    · subst hn
      rw [letter?_close]
      change Handled n _ _ _ (((t.setSeat n ⟨(t.seats n).worker.shutdown, none⟩).seats n).worker.process)
      rw [seats_setSeat_self]
      exact .closed
    · exact handled_of_same (seats_setSeat_of_ne hn t _) (letter?_close_of_ne (Ne.symm hn))
  | plays m p =>
    cases ht
    by_cases hn : n = m
    · subst hn
      change Handled n _ _ _ ((t.setSeat n _).seats n).worker.process
      rw [seats_setSeat_self]
      exact .played p
    · exact handled_of_same (seats_setSeat_of_ne hn t _) rfl

variable {w : Worker} {l? : Option Letter}

/-- Nobody but an interpreter opens an input again. -/
theorem Handled.isShut (h : Handled n w x l? p) (hplayed : x.IsPlayed = false) (hshut : w.process.isShut = true) :
    p.isShut = true := by
  cases h with
  | quiet => exact hshut
  | sent c r => exact Process.isShut_serve (Process.not_accepts_of_isShut hshut) r.line
  | struck | played => cases hplayed
  | closed => exact w.isShut_shutdown

theorem Handled.reads {bytes : List UInt8} (h : Handled n w x l? p) (hplayed : ∀ q, x ≠ .plays n q)
    (hreads : w.process.Reads bytes) :
    p.Reads (bytes ++ (l?.elim [] (·.reaching w.process)).flatMap Delivery.bytes) := by
  cases h with
  | quiet x unread =>
    rw [Option.elim_none, List.flatMap_nil, List.append_nil]
    exact ⟨hreads.front, hreads.rest, hreads.served, hreads.idle⟩
  | sent c r =>
    rw [Option.elim_some, Letter.flatMap_reaching]
    exact hreads.serve r.line
  | struck c =>
    rw [Option.elim_none, List.flatMap_nil, List.append_nil]
    exact hreads.interrupt
  | closed =>
    rw [Option.elim_some, Letter.flatMap_reaching]
    exact Worker.reads_shutdown hreads
  | played => exact absurd rfl (hplayed p)

/-! Runs with their mail -/

theorem mail_concat (h : t.run past = some t') (n : Nat) (x : Event) :
    t.mail n (past ++ [x]) = t.mail n past ++ t'.deliveries n x := by
  induction past generalizing t with
  | nil =>
    cases h
    change t'.deliveries n x ++ _ = [] ++ t'.deliveries n x
    cases t'.step x <;> exact List.append_nil _
  | cons y past ih =>
    obtain ⟨t₁, hy, hrest⟩ := run_cons_eq_some_iff.1 h
    rw [List.cons_append, mail, mail, hy]
    dsimp only
    rw [ih hrest, List.append_assoc]

/-- What holds at first and is kept by each step, given what got through before, holds behind every run. -/
theorem mail_induction {P : List Event → Traffic → List Delivery → Prop} {workers : Nat → Worker}
    {events : List Event} (n : Nat) (hstart : P [] (opened workers) [])
    (hstep : ∀ past t t' x sent, (opened workers).run past = some t → t.Orderly past → P past t sent →
      t.step x = some t' → P (past ++ [x]) t' (sent ++ t.deliveries n x))
    (h : (opened workers).run events = some t) : P events t ((opened workers).mail n events) := by
  have hkept : ∀ past t t' x, (opened workers).run past = some t ∧ P past t ((opened workers).mail n past) →
      t.step x = some t' →
      (opened workers).run (past ++ [x]) = some t' ∧ P (past ++ [x]) t' ((opened workers).mail n (past ++ [x])) := by
    rintro past t t' x ⟨hpast, hP⟩ hx
    refine ⟨run_append_eq_some_iff.2 ⟨t, hpast, run_cons_eq_some_iff.2 ⟨t', hx, rfl⟩⟩, ?_⟩
    rw [mail_concat hpast]
    exact hstep past t t' x _ hpast (orderly_of_run hpast) hP hx
  have hopened : (opened workers).run [] = some (opened workers) ∧ P [] (opened workers) ((opened workers).mail n []) :=
    ⟨rfl, hstart⟩
  exact (run_induction hkept hopened h).2

/-- No input is opened where no interpreter does anything but read and answer. -/
theorem staysShut_of_not_played {events : List Event} (h : ∀ x ∈ events, x.IsPlayed = false) :
    t.StaysShut n events := by
  induction events generalizing t with
  | nil => exact trivial
  | cons x events ih =>
    intro t' _
    refine ⟨fun hplayed => ?_, ih fun y hy => h y (List.mem_cons_of_mem x hy)⟩
    rw [h x List.mem_cons_self] at hplayed
    cases hplayed

theorem staysShut_concat (h : t.run past = some t') (hshut : t.StaysShut n (past ++ [x])) :
    t.StaysShut n past ∧ t'.StaysShut n [x] := by
  induction past generalizing t with
  | nil =>
    cases h
    exact ⟨trivial, hshut⟩
  | cons y past ih =>
    obtain ⟨t₁, hy, hrest⟩ := run_cons_eq_some_iff.1 h
    obtain ⟨hstep, hmore⟩ := hshut t₁ hy
    obtain ⟨hfront, hlast⟩ := ih hrest hmore
    refine ⟨fun t₂ hy₂ => ?_, hlast⟩
    rw [hy] at hy₂
    cases hy₂
    exact ⟨hstep, hfront⟩

/-- Once the input of a worker is closed, no step opens it again. -/
theorem isShut_of_staysShut {t'' : Traffic} (hstays : t'.StaysShut n [x]) (hx : t'.step x = some t'')
    (hshut : t'.isShut n = true) : t''.isShut n = true := by
  cases hplayed : x.IsPlayed with
  | true => exact (hstays t'' hx).1 hplayed hshut
  | false => exact (handled_step hx n).isShut hplayed hshut

theorem reads_of_run {workers : Nat → Worker} {events : List Event} (hnew : (workers n).process.Reads [])
    (h : (opened workers).run events = some t) (hplays : ∀ p, .plays n p ∉ events) :
    (t.seats n).worker.process.Reads (((opened workers).mail n events).flatMap Delivery.bytes) := by
  refine mail_induction (P := fun past t sent =>
    (∀ p, .plays n p ∉ past) → (t.seats n).worker.process.Reads (sent.flatMap Delivery.bytes)) n (fun _ => hnew) ?_ h
    hplays
  intro past t t' x sent _ _ hreads hx hplays
  rw [List.flatMap_append]
  refine (handled_step hx n).reads ?_ (hreads fun p hmem => hplays p (List.mem_append_left _ hmem))
  rintro p rfl
  exact hplays p (List.mem_append_right _ (List.mem_singleton_self _))

end Traffic

end ScriptBench
