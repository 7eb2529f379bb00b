import ScriptBench.Proofs.Traffic.Crashes
import ScriptBench.Proofs.Traffic.Numbers
import ScriptBench.Proofs.Traffic.Timeouts

/-! The order on the wire. A worker is written requests with the numbers from one on, each behind the end of the
exchange before it. Behind them there may be a shutdown, or a piece of a line whose writing failed. -/
namespace ScriptBench

open Json (OneLine Value)
open Text

namespace Traffic

variable {t t' : Traffic} {past : List Event} {c n : Nat} {call : Call} {x : Event} {sent : List Delivery}
  {d : Delivery}

/-! Calls and their requests -/

theorem Call.Moved.result? {call' : Call} {seat seat' : Seat} {m : Move} {r : Except EngineError Reply}
    (h : Call.Moved c call seat m call' seat') (hresult : call.stage.result? = some r) :
    call'.stage.result? = some r := by
  cases h with
  | silent | mark | strike | dismiss => exact hresult
  | enter hstage | begin hstage | arm id hstage | sent id w hstage | unsent id e w hstage | heard id r w hstage =>
    rw [hstage] at hresult
    cases hresult
  | stop r hstage | settle r hstage | judge r hstage | leave r b hstage =>
    rw [hstage] at hresult
    exact hresult

theorem Call.Moved.rank_le {call' : Call} {seat seat' : Seat} {m : Move} (h : Call.Moved c call seat m call' seat') :
    call.stage.rank ≤ call'.stage.rank := by
  cases h with
  | silent | mark | strike | dismiss => exact Nat.le_refl _
  | enter hstage | begin hstage | arm id hstage | sent id w hstage | unsent id e w hstage | heard id r w hstage
  | stop r hstage | settle r hstage | judge r hstage | leave r b hstage => simp [hstage]

/-- A call goes on: it keeps its job, its worker and its result. -/
structure Call.Onward (call call' : Call) : Prop where
  worker? : call'.worker? = call.worker?
  job : call'.job = call.job
  rank : call.stage.rank ≤ call'.stage.rank
  result : ∀ r, call.stage.result? = some r → call'.stage.result? = some r

theorem Call.Onward.refl (call : Call) : call.Onward call := ⟨rfl, rfl, Nat.le_refl _, fun _ hr => hr⟩

theorem Call.Moved.onward {call' : Call} {seat seat' : Seat} {m : Move} (h : Call.Moved c call seat m call' seat') :
    call.Onward call' := ⟨h.worker?, h.job, h.rank_le, fun _ => h.result?⟩

theorem kept_step (ht : t.step x = some t') (hget : t.calls[c]? = some call) :
    ∃ call', t'.calls[c]? = some call' ∧ call.Onward call' := by
  have hset : ∀ (c' : Nat) (old new : Call), t.calls[c']? = some old → t'.calls = t.calls.set c' new →
      old.Onward new → ∃ call', t'.calls[c]? = some call' ∧ call.Onward call' := by
    intro c' old new hold hcalls honward
    rw [hcalls]
    by_cases hc : c' = c
    · subst hc
      rw [hget] at hold
      cases hold
      exact ⟨new, List.getElem?_set_self (List.getElem?_eq_some_iff.1 hget).1, honward⟩
    · rw [List.getElem?_set_ne hc]
      exact ⟨call, hget, .refl call⟩
  cases x with
  | lobby y =>
    obtain ⟨_, _, _, hcalls⟩ := lobbyStep_eq_some ht
    exact ⟨call, hcalls ▸ hget, .refl call⟩
  | call job =>
    cases ht
    have hlt := (List.getElem?_eq_some_iff.1 hget).1
    exact ⟨call, (List.getElem?_append_left hlt).trans hget, .refl call⟩
  | move c' m =>
    obtain ⟨old, n', new, seat, hold, _, hmove, rfl⟩ := move_eq_some_iff.1 ht
    exact hset c' old new hold rfl (Call.moved_of_move hmove).onward
  | report c' =>
    obtain ⟨old, n', r, b, hold, _, hstage, rfl⟩ := report_eq_some_iff.1 ht
    refine hset c' old _ hold rfl ⟨rfl, rfl, by simp [hstage], fun r' hr => ?_⟩
    rw [hstage] at hr
    exact hr
  | close m =>
    obtain ⟨_, _, rfl⟩ := close_eq_some_iff.1 ht
    exact ⟨call, hget, .refl call⟩
  | plays m p =>
    cases ht
    exact ⟨call, hget, .refl call⟩

theorem worker?_of_run {events : List Event} (h : t.run events = some t') (hget : t.calls[c]? = some call) :
    ∃ call', t'.calls[c]? = some call' ∧ call'.worker? = call.worker? := by
  have hstep : ∀ (t₁ t₂ : Traffic) (x : Event),
      (∃ call', t₁.calls[c]? = some call' ∧ call'.worker? = call.worker?) → t₁.step x = some t₂ →
      ∃ call', t₂.calls[c]? = some call' ∧ call'.worker? = call.worker? := by
    rintro t₁ t₂ x ⟨call', hget', hworker⟩ hx
    obtain ⟨call'', hget'', honward⟩ := kept_step hx hget'
    exact ⟨call'', hget'', honward.worker?.trans hworker⟩
  exact run_kept hstep ⟨call, hget, rfl⟩ h

/-- A write of a call that broke off. -/
def brokenOff : Except EngineError Reply := .error (.crashed (.notWritten .brokenPipe))

/-- Every request was written by a call of the worker, which writes no other one. If it did not get through to its end,
the call has failed for that. -/
structure Accounted (t : Traffic) (n : Nat) (sent : List Delivery) : Prop where
  writer : ∀ d ∈ sent, ∀ c r, d.letter = .request c r → ∃ call, t.Has c n call ∧ r = call.request r.id ∧
    4 ≤ call.stage.rank ∧ (d ≠ d.letter.whole → call.stage.result? = some brokenOff)
  once : (sent.filterMap (·.letter.call?)).Nodup

/-- A request that gets through is one of a call that sends. It waits for its answer next, or its write broke off. -/
theorem written_of_deliveries {r : Request} (hd : d ∈ t.deliveries n x) (hletter : d.letter = .request c r)
    (ht : t.step x = some t') :
    (∃ old id, t.Has c n old ∧ old.stage = .armed id) ∧
      ∃ call, t'.Has c n call ∧ r = call.request r.id ∧ 4 ≤ call.stage.rank ∧
        (d ≠ d.letter.whole → call.stage.result? = some brokenOff) := by
  obtain ⟨hsome, _, _⟩ := mem_deliveries hd
  rw [deliveries_of_some hsome] at hd
  obtain ⟨_, _, _, hthrough⟩ := Letter.eq_of_mem_reaching hd
  rcases letter?_eq_some hsome with ⟨c', call, id, rfl, hhas, hstage, hl⟩ | ⟨_, hl⟩
  · rw [hletter] at hl
    cases hl
    obtain ⟨old, n', new, seat, hget, hkeeps, hmove, rfl⟩ := move_eq_some_iff.1 ht
    obtain ⟨rfl, rfl⟩ := hhas.unique ⟨hget, hkeeps⟩
    have hmoved := Call.moved_of_move hmove
    have hhas' : Traffic.Has { t.setSeat n seat with calls := t.calls.set c new } c n new :=
      ⟨List.getElem?_set_self hhas.lt, hmoved.worker?.trans hkeeps⟩
    refine ⟨⟨call, id, hhas, hstage⟩, new, hhas', ?_, ?_⟩
    · unfold Call.request
      rw [hmoved.job]
    · cases hmoved with
      | sent id' w hstage' hsent =>
        obtain ⟨haccepts, _⟩ := eq_of_sent hsent
        refine ⟨by simp, fun hpiece => absurd ?_ hpiece⟩
        rcases hthrough with ⟨_, hwhole⟩ | ⟨hrefuses, _⟩
        · exact hwhole
        · rw [haccepts] at hrefuses
          cases hrefuses
      | unsent id' e w hstage' hunsent =>
        obtain ⟨_, rfl, _⟩ := eq_of_unsent hunsent
        exact ⟨by simp, fun _ => rfl⟩
  · rw [hletter] at hl
    cases hl

theorem Accounted.step (h : t.Accounted n sent) (ht : t.step x = some t') :
    t'.Accounted n (sent ++ t.deliveries n x) := by
  constructor
  · intro d hmem c r hletter
    rcases List.mem_append.1 hmem with hold | hnew
    · obtain ⟨call, hhas, hr, hrank, hbroken⟩ := h.writer d hold c r hletter
      obtain ⟨call', hget, honward⟩ := kept_step ht hhas.get
      refine ⟨call', ⟨hget, honward.worker?.trans hhas.keeps⟩, ?_, Nat.le_trans hrank honward.rank,
        fun hpiece => honward.result _ (hbroken hpiece)⟩
      unfold Call.request
      rw [honward.job]
      exact hr
    · exact (written_of_deliveries hnew hletter ht).2
  · rw [List.filterMap_append]
    cases hdeliveries : t.deliveries n x with
    | nil =>
      rw [List.filterMap_nil, List.append_nil]
      exact h.once
    | cons d more =>
      have hd : d ∈ t.deliveries n x := by
        rw [hdeliveries]
        exact List.mem_cons_self
      rw [← hdeliveries, (mem_deliveries hd).2.1]
      cases hletter : d.letter with
      | shutdown =>
        rw [List.filterMap_cons_none (by rw [hletter]; rfl), List.filterMap_nil, List.append_nil]
        exact h.once
      | request c r =>
        rw [List.filterMap_cons_some (b := c) (by rw [hletter]; rfl), List.filterMap_nil]
        refine List.nodup_append.2 ⟨h.once, List.pairwise_singleton _ c, ?_⟩
        rintro c' hc' _ hc rfl
        cases List.mem_singleton.1 hc
        -- who sends now has not sent before
        obtain ⟨d', hd', hcall⟩ := List.mem_filterMap.1 hc'
        cases hletter' : d'.letter with
        | shutdown =>
          rw [hletter'] at hcall
          cases hcall
        | request c'' r' =>
          rw [hletter'] at hcall
          cases hcall
          obtain ⟨call, hhas, _, hrank, _⟩ := h.writer d' hd' c r' hletter'
          obtain ⟨old, id, hhas', hstage⟩ := (written_of_deliveries hd hletter ht).1
          rw [(hhas.unique hhas').2, hstage] at hrank
          simp at hrank

theorem accounted_of_run {workers : Nat → Worker} {events : List Event} (n : Nat)
    (h : (opened workers).run events = some t) : t.Accounted n ((opened workers).mail n events) :=
  mail_induction (P := fun _ t sent => t.Accounted n sent) n ⟨nofun, List.Pairwise.nil⟩
    (fun _ _ _ _ _ _ _ haccounted hx => haccounted.step hx) h

theorem Stage.exists_left_or_done {s : Stage} (h : 9 ≤ s.rank) : ∃ r b, s = .left r b ∨ s = .done r b := by
  cases s with
  | left r b => exact ⟨r, b, .inl rfl⟩
  | done r b => exact ⟨r, b, .inr rfl⟩
  | _ => simp at h

/-- When something gets through to a worker, every exchange before it has ended. -/
theorem Accounted.ended {r : Request} (h : t.Accounted n sent) (horderly : t.Orderly past) (ht : t.step x = some t')
    (hsome : t.deliveries n x ≠ []) (hmem : d ∈ sent) (hletter : d.letter = .request c r) :
    ∃ call r b, t.Has c n call ∧ (call.stage = .left r b ∨ call.stage = .done r b) := by
  obtain ⟨call, hhas, _, hrank, _⟩ := h.writer d hmem c r hletter
  have hout : call.stage.inSession = false := by
    obtain ⟨d', hd'⟩ := List.exists_mem_of_ne_nil _ hsome
    rcases letter?_eq_some (mem_deliveries hd').1 with ⟨c', call', id, rfl, hhas', hstage, _⟩ | ⟨rfl, _⟩
    · have hholder := (horderly.holder_iff n c').2 ⟨call', hhas', by rw [hstage]; rfl⟩
      refine horderly.outside hhas (.inr hholder) ?_
      rintro rfl
      rw [(hhas.unique hhas').2, hstage] at hrank
      simp at hrank
    · obtain ⟨_, hfree, _⟩ := close_eq_some_iff.1 ht
      exact horderly.outside (c := c + 1) hhas (.inl hfree) (by omega)
  have hlate : 9 ≤ call.stage.rank := by
    rcases Stage.inSession_eq_false_iff.1 hout with hzero | hlate
    · omega
    · exact hlate
  obtain ⟨r, b, hstage⟩ := Stage.exists_left_or_done hlate
  exact ⟨call, r, b, hhas, hstage⟩

/-! Shutdowns -/

theorem exists_step_of_run {t₀ t'' : Traffic} {first later : List Event} (h : t.run (first ++ x :: later) = some t'')
    (hfirst : t.run first = some t₀) : ∃ t₁, t₀.step x = some t₁ ∧ t₁.run later = some t'' := by
  obtain ⟨t₀', hfirst', hrest⟩ := run_append_eq_some_iff.1 h
  rw [hfirst] at hfirst'
  cases hfirst'
  exact run_cons_eq_some_iff.1 hrest

/-- A shutdown has taken a worker away while it was the live one. -/
def Taken (workers : Nat → Worker) (past : List Event) (n : Nat) : Prop :=
  ∃ first later t₀, past = first ++ .lobby .take :: later ∧ (opened workers).run first = some t₀ ∧
    t₀.lobby.supervisor.live = some n

theorem Taken.concat {workers : Nat → Worker} (h : Taken workers past n) (x : Event) :
    Taken workers (past ++ [x]) n := by
  obtain ⟨first, later, t₀, rfl, hfirst, hlive⟩ := h
  exact ⟨first, later ++ [x], t₀, List.append_assoc _ _ _, hfirst, hlive⟩

/-- A worker is to be closed once a shutdown has taken it away. -/
theorem mem_closing_step (ht : t.step x = some t') (hmem : n ∈ t'.closing) :
    n ∈ t.closing ∨ x = .lobby .take ∧ t.lobby.supervisor.live = some n := by
  cases x with
  | lobby y =>
    cases y with
    | forget w reason => cases ht
    | take =>
      cases ht
      exact (List.mem_append.1 hmem).imp_right fun hlive => ⟨rfl, Option.mem_toList.1 hlive⟩
    | arrive | installed | launched | failed | serve =>
      obtain ⟨d, _, rfl⟩ := Option.map_eq_some_iff.1 ht
      exact .inl hmem
  | call job =>
    cases ht
    exact .inl hmem
  | move c m =>
    obtain ⟨_, _, _, _, _, _, _, rfl⟩ := move_eq_some_iff.1 ht
    exact .inl hmem
  | report c =>
    obtain ⟨_, _, _, _, _, _, _, rfl⟩ := report_eq_some_iff.1 ht
    exact .inl hmem
  | close m =>
    obtain ⟨_, _, rfl⟩ := close_eq_some_iff.1 ht
    exact .inl (List.mem_of_mem_erase hmem)
  | plays m p =>
    cases ht
    exact .inl hmem

theorem taken_of_shutdown {workers : Nat → Worker} {events : List Event} (h : (opened workers).run events = some t)
    (hmem : d ∈ (opened workers).mail n events) (hletter : d.letter = .shutdown) : Taken workers events n := by
  have hinduction := mail_induction
    (P := fun past t sent => n ∈ t.closing ∨ (∃ d ∈ sent, d.letter = .shutdown) → Taken workers past n) n ?_ ?_ h
  · exact hinduction (.inr ⟨d, hmem, hletter⟩)
  · rintro (hclosing | ⟨_, hsent, _⟩)
    · cases hclosing
    · cases hsent
  · rintro past t t' x sent hpast _ htaken hx (hclosing | ⟨d, hd, hletter⟩)
    · rcases mem_closing_step hx hclosing with hold | ⟨rfl, hlive⟩
      · exact (htaken (.inl hold)).concat x
      · exact ⟨past, [], t, rfl, hpast, hlive⟩
    · rcases List.mem_append.1 hd with hold | hnew
      · exact (htaken (.inr ⟨d, hold, hletter⟩)).concat x
      · rcases letter?_eq_some (mem_deliveries hnew).1 with ⟨_, _, _, _, _, _, hl⟩ | ⟨rfl, _⟩
        · rw [hletter] at hl
          cases hl
        · exact (htaken (.inl (close_eq_some_iff.1 hx).1)).concat _

/-- A worker that was dropped is never live again. -/
theorem not_live_behind_drop {workers : Nat → Worker} {first later : List Event} {t₀ t₁ : Traffic}
    (h : (opened workers).run (first ++ x :: later) = some t) (hfirst : (opened workers).run first = some t₀)
    (hx : t₀.step x = some t₁) (hlive : t₀.lobby.supervisor.live = some n)
    (hdropped : t₁.lobby.supervisor.live ≠ some n) : t.lobby.supervisor.live ≠ some n := by
  have horderly := orderly_of_run hfirst
  have hlt := horderly.lobby.live_lt n hlive
  obtain ⟨t₁', hx', hlater⟩ := exists_step_of_run h hfirst
  rw [hx] at hx'
  cases hx'
  refine (horderly.step hx).gone_run ?_ hdropped hlater
  rcases exists_lobby_step hx with heq | ⟨y, hy⟩
  · rw [heq]
    exact hlt
  · exact Nat.lt_of_lt_of_le hlt (Lobby.workers_le_step hy)

/-- A worker that something else than a shutdown has dropped is taken by no shutdown, before or behind. -/
theorem not_taken_of_dropped {workers : Nat → Worker} {first later : List Event} {t₀ t₁ : Traffic}
    (hfirst : (opened workers).run first = some t₀) (hx : t₀.step x = some t₁) (hlive : t₀.lobby.supervisor.live = some n)
    (hdropped : t₁.lobby.supervisor.live ≠ some n) (hother : x ≠ .lobby .take) :
    ¬Taken workers (first ++ x :: later) n := by
  rintro ⟨first', later', t₀', heq, hfirst', hlive'⟩
  obtain ⟨t₁', htake, hgone⟩ : ∃ t₁', t₀'.step (.lobby .take) = some t₁' ∧ t₁'.lobby.supervisor.live ≠ some n :=
    ⟨_, rfl, nofun⟩
  rcases List.append_eq_append_iff.1 heq with ⟨more, rfl, hmore⟩ | ⟨more, rfl, hmore⟩
  · cases more with
    | nil =>
      cases hmore
      exact hother rfl
    | cons y more =>
      cases hmore
      exact not_live_behind_drop hfirst' hfirst hx hlive hdropped hlive'
  · cases more with
    | nil =>
      cases hmore
      exact hother rfl
    | cons y more =>
      cases hmore
      exact not_live_behind_drop hfirst hfirst' htake hlive' hgone hlive

/-- Whatever callers, calls, watchdogs, starts, shutdowns and interpreters do in any order: as long as its numbers fit
into 64 bits, a worker gets requests with the numbers from one on, each on a line, and behind them one shutdown at most,
or a piece of one line more. A piece is what a write got through that broke off, and the call that wrote it has failed.
Nothing gets through before the exchanges of all earlier requests have ended. A call writes one request at most, and none
unless it came when the worker was live. A shutdown is written only to a worker that a shutdown took away, and never to
one that something else has dropped. An interpreter to which nothing happens from outside reads what gets through to it,
from its front on. A call or a shutdown that is given up while it waits for the session is one that takes no step any
more; `drop` shows what is lost where it holds the session. -/
theorem wire_in_order {workers : Nat → Worker} {events : List Event} (h : (opened workers).run events = some t)
    (hnew : (workers n).IsNew) (hstays : (opened workers).StaysShut n events)
    (hcounter : (t.seats n).worker.nextId ≤ UInt64.size) (hsent : (opened workers).mail n events = sent) :
    InOrder sent ∧
    (∀ d ∈ sent, OneLine d.letter.line.toList) ∧
    (∀ d ∈ sent, ∀ c r, d.letter = .request c r →
      r.line ≠ Request.shutdownLine ∧ Value.parse r.line = .ok r.toJson ∧
      ∃ call, t.Has c n call ∧ r = call.request r.id ∧
        (d ≠ d.letter.whole → call.stage.result? = some brokenOff)) ∧
    (sent.filterMap (·.letter.call?)).Nodup ∧
    (∀ first x later t₀, events = first ++ x :: later → (opened workers).run first = some t₀ →
      t₀.deliveries n x ≠ [] → ∀ d ∈ (opened workers).mail n first, ∀ c r, d.letter = .request c r →
        ∃ call result b, t₀.Has c n call ∧ (call.stage = .left result b ∨ call.stage = .done result b)) ∧
    (∀ first job later t₀, events = first ++ .call job :: later → (opened workers).run first = some t₀ →
      t₀.lobby.supervisor.live ≠ some n → ∀ d ∈ sent, ∀ r, d.letter ≠ .request t₀.calls.length r) ∧
    (∀ d ∈ sent, d.letter = .shutdown → Taken workers events n) ∧
    (∀ first x later t₀ t₁, events = first ++ x :: later → (opened workers).run first = some t₀ →
      t₀.step x = some t₁ → t₀.lobby.supervisor.live = some n → t₁.lobby.supervisor.live ≠ some n →
      x ≠ .lobby .take → ∀ d ∈ sent, d.letter ≠ .shutdown) ∧
    ((∀ p, .plays n p ∉ events) → (t.seats n).worker.process.read <+: sent.flatMap Delivery.bytes) := by
  subst hsent
  have hposted := posted_of_run hnew.nextId h hstays
  have haccounted := accounted_of_run n h
  refine ⟨hposted.inOrder, fun d _ => ?_, fun d hd c r hletter => ?_, haccounted.once, ?_, ?_,
    fun d hd hletter => taken_of_shutdown h hd hletter, ?_, fun hplays => (reads_of_run hnew.reads h hplays).front⟩
  · cases d.letter with
    | request c r => exact r.oneLine_line
    | shutdown => decide
  · obtain ⟨call, hhas, hr, _, hbroken⟩ := haccounted.writer d hd c r hletter
    have hid : r.id < UInt64.size := Nat.lt_of_lt_of_le (hposted.drawn d hd c r hletter) hcounter
    exact ⟨r.line_ne_shutdownLine, Request.parse_line hid, call, hhas, hr, hbroken⟩
  · rintro first x later t₀ rfl hfirst hsome d hd c r hletter
    obtain ⟨t₁, hx, _⟩ := exists_step_of_run h hfirst
    exact (accounted_of_run n hfirst).ended (orderly_of_run hfirst) hx hsome hd hletter
  · rintro first job later t₀ rfl hfirst hlive d hd r hletter
    obtain ⟨t₁, hcall, hrest⟩ := exists_step_of_run h hfirst
    cases hcall
    have hget : (t₀.receive job).calls[t₀.calls.length]? = some (newCall t₀.lobby.supervisor.live job) :=
      List.getElem?_concat_length
    obtain ⟨call', hget', hworker⟩ := worker?_of_run hrest hget
    obtain ⟨call, hhas, _⟩ := haccounted.writer d hd _ r hletter
    rw [hhas.get] at hget'
    cases hget'
    rw [hhas.keeps] at hworker
    cases hnone : t₀.lobby.supervisor.live with
    | none =>
      rw [hnone] at hworker
      cases hworker
    | some m =>
      rw [hnone] at hworker hlive
      exact hlive hworker.symm
  · rintro first x later t₀ t₁ rfl hfirst hx hlive hdropped hother d hd hletter
    exact not_taken_of_dropped hfirst hx hlive hdropped hother (taken_of_shutdown h hd hletter)

/-- A worker whose interpreter answers its first request. -/
def answeringWorker : Worker :=
  ⟨⟨⟨⟨false, [], .goesOn⟩, fun _ => ⟨false, Text.encodeUtf8 (interruptLine "1"), .goesOn⟩⟩, [], [], [], none, [], .running⟩,
    "3.12", none, 1⟩

/-- A shutdown comes during the first of two calls, and a third call comes behind it. -/
def lastCalls : List Event :=
  [.lobby .arrive, .lobby (.installed 0), .lobby (.launched 0), .call ⟨⟨none, "lib"⟩, "f()", none⟩,
    .call ⟨⟨none, "lib"⟩, "g()", none⟩, .move 0 .enter, .move 0 .begin, .move 0 .arm, .move 0 .send, .lobby .take,
    .call ⟨⟨none, "lib"⟩, "h()", none⟩, .move 0 .listen, .move 0 .stop, .move 0 .settle, .move 0 .judge,
    .move 0 .leave, .report 0, .close 0] ++ unsentCall 1 ++ [.report 1]

/-- The first call writes its request, and the shutdown follows it. The call that waited behind it gets nothing through. -/
theorem wire_in_order_of_last_calls :
    ∃ t, answeringWorker.IsNew ∧ (opened fun _ => answeringWorker).run lastCalls = some t ∧
      (opened fun _ => answeringWorker).StaysShut 0 lastCalls ∧ (t.seats 0).worker.nextId ≤ UInt64.size ∧
      (opened fun _ => answeringWorker).mail 0 lastCalls =
        [(Letter.request 0 ⟨1, "f()", none, "lib"⟩).whole, Letter.shutdown.whole] ∧
      Taken (fun _ => answeringWorker) lastCalls 0 ∧
      (t.seats 0).worker.process.read <+:
        encodeUtf8 (Request.line ⟨1, "f()", none, "lib"⟩) ++ [10] ++ (encodeUtf8 Request.shutdownLine ++ [10]) := by
  have hnew : answeringWorker.IsNew := ⟨rfl, rfl, rfl, rfl, fun _ => rfl⟩
  have hquiet : ∀ x ∈ lastCalls, x.IsPlayed = false := by decide
  have hstays : (opened fun _ => answeringWorker).StaysShut 0 lastCalls := staysShut_of_not_played hquiet
  have hmail : (opened fun _ => answeringWorker).mail 0 lastCalls =
      [(Letter.request 0 ⟨1, "f()", none, "lib"⟩).whole, Letter.shutdown.whole] := by
    decide +kernel
  have hruns : ((opened fun _ => answeringWorker).run lastCalls).map (fun t => (t.seats 0).worker.nextId) =
      some 3 := by
    decide +kernel
  obtain ⟨t, h, hthird⟩ := Option.map_eq_some_iff.1 hruns
  have hcounter : (t.seats 0).worker.nextId ≤ UInt64.size := by
    rw [hthird]
    decide
  obtain ⟨_, _, _, _, _, _, htaken, _, hreads⟩ := wire_in_order h hnew hstays hcounter hmail
  exact ⟨t, hnew, h, hstays, hcounter, hmail, htaken Letter.shutdown.whole (by simp) rfl,
    hreads fun p hmem => nomatch hquiet _ hmem⟩

/-! Writes that break off, and calls that are dropped -/

/-- The order in which everything is whole. -/
def Unbroken (sent : List Delivery) : Prop :=
  ∃ front last, sent = front ++ last ∧ Numbered front ∧ (last = [] ∨ last = [Letter.shutdown.whole])

theorem Unbroken.whole (h : Unbroken sent) (hd : d ∈ sent) : d = d.letter.whole := by
  obtain ⟨_, last, rfl, ⟨requests, rfl, _⟩, hlast⟩ := h
  rcases List.mem_append.1 hd with hfront | hbehind
  · obtain ⟨p, _, rfl⟩ := List.mem_map.1 hfront
    rfl
  · rcases hlast with rfl | rfl
    · cases hbehind
    · rw [List.mem_singleton.1 hbehind]
      rfl

theorem Unbroken.first {r : Request} {more : List Delivery} (h : Unbroken (d :: more))
    (hletter : d.letter = .request c r) : r.id = 1 := by
  obtain ⟨_, last, hsent, ⟨requests, rfl, hids⟩, hlast⟩ := h
  cases requests with
  | nil =>
    rcases hlast with rfl | rfl
    · cases hsent
    · cases hsent
      cases hletter
  | cons p requests =>
    cases hsent
    cases hletter
    exact (List.cons.inj hids).1

/-- A call without a watchdog is dropped when its request is to be written. It leaves the session, and does nothing
more. -/
def drop (t : Traffic) (c : Nat) : Option Traffic := do
  let call ← t.calls[c]?
  let n ← call.worker?
  match call.stage, call.watchdog with
  | .armed _, .absent =>
    return { t.setSeat n ⟨(t.seats n).worker, none⟩ with calls := t.calls.set c { call with worker? := none } }
  | _, _ => none

def greeting : String := "\x7b\"type\":\"ready\",\"version\":\"3.12\",\"pid\":7\x7d"

/-- An interpreter that reads ten bytes behind its greeting, and then closes its input. -/
def breakingInterpreter : Interpreter :=
  ⟨⟨false, encodeUtf8 greeting ++ [10], .closesInput 10⟩,
    fun _ => ⟨false, [], .goesOn⟩⟩

def breakingWorker : Worker := ⟨⟨breakingInterpreter, [], [], [], none, [], .deaf 10⟩, "3.12", none, 1⟩

/-- Two calls come, and the first one is about to write its request. -/
def firstCall : List Event :=
  [.lobby .arrive, .lobby (.installed 0), .lobby (.launched 0), .call ⟨⟨none, "lib"⟩, "f()", none⟩,
    .call ⟨⟨none, "lib"⟩, "g()", none⟩, .move 0 .enter, .move 0 .begin, .move 0 .arm]

def secondCall : List Event := [.move 1 .enter, .move 1 .begin, .move 1 .arm, .move 1 .send]

/-- An interpreter that closes its input in the middle of a line has read a piece of it. Where a call is dropped that has
taken its number, the first request to get through has the second one. -/
theorem broken_mail :
    (∃ t, handshake 1 (.start breakingInterpreter) = .ok ("3.12", breakingWorker.process) ∧
      (opened fun _ => breakingWorker).run (firstCall ++ [.move 0 .send]) = some t ∧
      (t.seats 0).worker.process.read = encodeUtf8 "\x7b\"op\":\"exe" ∧
      ¬Unbroken ((opened fun _ => breakingWorker).mail 0 (firstCall ++ [.move 0 .send]))) ∧
    ∃ t₁ t₂ t, (opened fun _ => answeringWorker).run firstCall = some t₁ ∧ t₁.drop 0 = some t₂ ∧
      t₂.run secondCall = some t ∧
      ¬Unbroken ((opened fun _ => answeringWorker).mail 0 firstCall ++ t₂.mail 0 secondCall) := by
  refine ⟨?_, ?_⟩
  · have hruns : ((opened fun _ => breakingWorker).run (firstCall ++ [.move 0 .send])).map
        (fun t => (t.seats 0).worker.process.read) = some (encodeUtf8 "\x7b\"op\":\"exe") := by
      decide +kernel
    have hmail : (opened fun _ => breakingWorker).mail 0 (firstCall ++ [.move 0 .send]) =
        [⟨.request 0 ⟨1, "f()", none, "lib"⟩, encodeUtf8 "\x7b\"op\":\"exe"⟩] := by
      decide +kernel
    obtain ⟨t, h, hread⟩ := Option.map_eq_some_iff.1 hruns
    have hgreeting : Message.ofLine? greeting = some (.ready "3.12" 7) := by decide +kernel
    have hheard : hear none (encodeUtf8 greeting ++ [10]) = (.line greeting, []) := by decide +kernel
    have hhear : (Process.start breakingInterpreter).hear = (.line greeting, breakingWorker.process) := by
      rw [Process.hear, show hear (Process.start breakingInterpreter).outputEnd?
        (Process.start breakingInterpreter).unread = _ from hheard]
      rfl
    refine ⟨t, ?_, h, hread, fun hunbroken => ?_⟩
    · rw [handshake, if_neg Nat.one_ne_zero, hhear]
      dsimp only
      rw [hgreeting]
    · rw [hmail] at hunbroken
      exact absurd (hunbroken.whole List.mem_cons_self) (by decide +kernel)
  · have hdropped : (((opened fun _ => answeringWorker).run firstCall).bind (·.drop 0)).map
        (fun t₂ => ((t₂.run secondCall).isSome, t₂.mail 0 secondCall)) =
          some (true, [(Letter.request 1 ⟨2, "g()", none, "lib"⟩).whole]) := by
      decide +kernel
    have hnothing : (opened fun _ => answeringWorker).mail 0 firstCall = [] := by decide +kernel
    obtain ⟨t₂, h₂, hlater⟩ := Option.map_eq_some_iff.1 hdropped
    obtain ⟨t₁, h₁, hdrop⟩ := Option.bind_eq_some_iff.1 h₂
    obtain ⟨t, h⟩ := Option.isSome_iff_exists.1 (congrArg Prod.fst hlater)
    refine ⟨t₁, t₂, t, h₁, hdrop, h, fun hunbroken => ?_⟩
    have hsecond : t₂.mail 0 secondCall = _ := congrArg Prod.snd hlater
    rw [hnothing, List.nil_append, hsecond] at hunbroken
    exact absurd (hunbroken.first rfl) (by decide)

end Traffic

end ScriptBench
