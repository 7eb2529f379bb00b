import ScriptBench.Proofs.Engine.Queue
import ScriptBench.Proofs.Traffic.Orderly

/-! Whose timeout it is. An interrupt comes between the clearing of the cell and the end of the session of the call
whose watchdog it is, and a call reports a timeout just if its own watchdog has fired. -/
namespace ScriptBench

theorem Failure.ofRaised_of_interrupt {x : RaisedError} (hx : x.kind = interruptException) (interrupted : Bool) :
    Failure.ofRaised interrupted x =
      if interrupted then .timeout else ⟨.exception interruptException, x.message, x.traceback⟩ := by
  unfold Failure.ofRaised
  rw [hx]
  cases interrupted <;> rfl

theorem Outcome.failure?_of_raised {reply : Reply} {x : RaisedError} (h : reply.error? = some x)
    (interrupted : Bool) :
    (Outcome.ofExchange interrupted (.ok reply)).failure? = some (.ofRaised interrupted x) := by
  change reply.failure? interrupted = _
  unfold Reply.failure?
  rw [h]

namespace Traffic

variable {t t' : Traffic} {past : List Event} {c n : Nat} {call : Call} {x : Event}

/-! The cell of a worker -/

/-- A worker has a cell or not, whatever happens to it. -/
theorem cell?_step (ht : t.step x = some t') (n : Nat) :
    (t'.seats n).worker.cell?.isSome = (t.seats n).worker.cell?.isSome := by
  have hset : ∀ (n' : Nat) (seat : Seat), seat.worker.cell?.isSome = (t.seats n').worker.cell?.isSome →
      ((t.setSeat n' seat).seats n).worker.cell?.isSome = (t.seats n).worker.cell?.isSome := by
    intro n' seat hcell
    by_cases hn : n = n'
    · subst hn
      rw [seats_setSeat_self, hcell]
    · rw [seats_setSeat_of_ne hn]
  cases x with
  | lobby y =>
    obtain ⟨_, _, hseats, _⟩ := lobbyStep_eq_some ht
    rw [hseats]
  | call job =>
    cases ht
    rfl
  | move c m =>
    obtain ⟨old, n', call, seat, _, _, hmove, rfl⟩ := move_eq_some_iff.1 ht
    exact hset n' seat (Call.moved_of_move hmove).cell?
  | report c =>
    obtain ⟨_, _, _, _, _, _, _, rfl⟩ := report_eq_some_iff.1 ht
    rfl
  | close n' =>
    obtain ⟨_, _, rfl⟩ := close_eq_some_iff.1 ht
    refine hset n' ⟨(t.seats n').worker.shutdown, none⟩ ?_
    change (t.seats n').worker.shutdown.cell?.isSome = _
    rw [Worker.cell?_shutdown]
  | plays n' p =>
    cases ht
    exact hset n' _ rfl

theorem cell?_of_run {workers : Nat → Worker} {events : List Event} (h : (opened workers).run events = some t)
    (n : Nat) : (t.seats n).worker.cell?.isSome = (workers n).cell?.isSome := by
  have hstep : ∀ (t t' : Traffic) (x : Event), (t.seats n).worker.cell?.isSome = (workers n).cell?.isSome →
      t.step x = some t' → (t'.seats n).worker.cell?.isSome = (workers n).cell?.isSome := by
    intro t t' x hcell hx
    rw [cell?_step hx, hcell]
  have hstart : ((opened workers).seats n).worker.cell?.isSome = (workers n).cell?.isSome := rfl
  exact run_kept hstep hstart h

/-! Watchdogs -/

/-- A watchdog that is alive belongs to the call that holds the session. -/
theorem Orderly.holder_of_alive (h : t.Orderly past) (hcall : t.calls[c]? = some call)
    (halive : call.watchdog.isAlive = true) : ∃ n, t.Has c n call ∧ (t.seats n).holder? = some c := by
  cases hkeeps : call.worker? with
  | none =>
    rw [(h.turnedAway c call hcall hkeeps).2] at halive
    cases halive
  | some n =>
    have hhas : t.Has c n call := ⟨hcall, hkeeps⟩
    exact ⟨n, hhas, (h.holder_iff n c).2 ⟨call, hhas, (h.fits c n call hhas).inSession halive⟩⟩

/-- When a watchdog interrupts the interpreter its call has cleared the cell, holds the session, and has not left it. -/
theorem Orderly.strike (h : t.Orderly past) (ht : t.step (.move c .strike) = some t') :
    .begin ∈ movesOf c past ∧ .leave ∉ movesOf c past ∧ ∃ n call, t.Has c n call ∧ (t.seats n).holder? = some c := by
  obtain ⟨call, n, call', seat, hget, hkeeps, hmove, _⟩ := move_eq_some_iff.1 ht
  have hhas : t.Has c n call := ⟨hget, hkeeps⟩
  have hfiring : call.watchdog = .firing := by
    cases Call.moved_of_move hmove with
    | strike hfiring => exact hfiring
  have halive : call.watchdog.isAlive = true := by
    rw [hfiring]
    rfl
  have hrank := (h.fits c n call hhas).alive halive
  have htold := h.told c n call hhas
  obtain ⟨n', hhas', hholder⟩ := h.holder_of_alive hget halive
  refine ⟨htold.begun.2 (by omega), fun hleft => ?_, n', call, hhas', hholder⟩
  have hlate := htold.left.1 hleft
  omega

/-- A call that is done has read from the cell just whether its own watchdog fired between its clearing and its
reading. -/
theorem Orderly.verdict (h : t.Orderly past) (hhas : t.Has c n call) {r : Except EngineError Reply} {b : Bool}
    (hdone : call.stage = .done r b) : b = true ↔ List.Sublist [.begin, .mark, .strike, .judge] (movesOf c past) := by
  have hfits := h.fits c n call hhas
  have htold := h.told c n call hhas
  have hb : b = call.watchdog.hasMarked := by
    refine hfits.verdict b ?_
    rw [hdone]
    rfl
  constructor
  · intro htrue
    have hmarked : call.watchdog.hasMarked = true := by rw [← hb, htrue]
    cases hwatchdog : call.watchdog with
    | fired => exact htold.judged (by simp [hdone]) hwatchdog
    | firing =>
      have hrank := hfits.alive (by simp [hwatchdog, Watchdog.isAlive])
      simp [hdone] at hrank
    | absent | armed | calledOff =>
      rw [hwatchdog] at hmarked
      cases hmarked
  · intro hfired
    have hmark : .mark ∈ movesOf c past := hfired.subset (by simp)
    rw [hb]
    exact htold.marked.1 hmark

/-- A call without a time budget, or at a worker without a cell, has no watchdog. -/
theorem Orderly.not_mark (h : t.Orderly past) (hhas : t.Has c n call)
    (huntimed : call.job.options.timeout? = none ∨ (t.seats n).worker.cell?.isSome = false) :
    .mark ∉ movesOf c past := by
  intro hmark
  have hmarked := (h.told c n call hhas).marked.1 hmark
  have hpresent : call.watchdog ≠ .absent := by
    intro habsent
    rw [habsent] at hmarked
    cases hmarked
  obtain ⟨htimed, hcell⟩ := (h.fits c n call hhas).timed hpresent
  rcases huntimed with hnone | hnone
  · rw [hnone] at htimed
    cases htimed
  · rw [hnone] at hcell
    cases hcell

/-- In every order of calls and watchdogs: a watchdog that is alive belongs to the call that holds the session, so there
is one at most for each worker. It interrupts the interpreter only between the clearing of the cell by its call and the
end of the session of its call. An exception of an interrupt is a timeout just if the call's own watchdog fired between
the clearing and the reading of the cell, and else it keeps its name. The watchdog of a call without a time budget, or
at a worker without a cell, never fires. -/
theorem timeouts_attributed {workers : Nat → Worker} {events : List Event}
    (h : (opened workers).run events = some t) :
    (∀ (c : Nat) (call : Call), t.calls[c]? = some call → call.watchdog.isAlive = true →
      ∃ n, t.Has c n call ∧ (t.seats n).holder? = some c) ∧
    (∀ c c' n call call', t.Has c n call → t.Has c' n call' → call.watchdog.isAlive = true →
      call'.watchdog.isAlive = true → c = c') ∧
    (∀ c first later, events = first ++ .move c .strike :: later →
      .begin ∈ movesOf c first ∧ .leave ∉ movesOf c first ∧
        ∃ t₀ n call, (opened workers).run first = some t₀ ∧ t₀.Has c n call ∧ (t₀.seats n).holder? = some c) ∧
    (∀ c n call reply b x, t.Has c n call → call.stage = .done (.ok reply) b → reply.error? = some x →
      x.kind = interruptException → ∃ o f, call.outcome? = some o ∧ o.failure? = some f ∧
        (f = .timeout ↔ List.Sublist [.begin, .mark, .strike, .judge] (movesOf c events)) ∧
        (f ≠ .timeout → f = ⟨.exception interruptException, x.message, x.traceback⟩)) ∧
    (∀ c n call, t.Has c n call → call.job.options.timeout? = none ∨ (workers n).cell? = none →
      .mark ∉ movesOf c events) := by
  have horderly := orderly_of_run h
  refine ⟨fun c call hcall halive => horderly.holder_of_alive hcall halive, ?_, ?_, ?_, ?_⟩
  · intro c c' n call call' hhas hhas' halive halive'
    obtain ⟨n₁, hhas₁, hholder⟩ := horderly.holder_of_alive hhas.get halive
    obtain ⟨n₂, hhas₂, hholder'⟩ := horderly.holder_of_alive hhas'.get halive'
    rw [(hhas₁.unique hhas).1] at hholder
    rw [(hhas₂.unique hhas').1, hholder] at hholder'
    injection hholder'
  · intro c first later hevents
    rw [hevents] at h
    obtain ⟨t₀, hfirst, hrest⟩ := run_append_eq_some_iff.1 h
    obtain ⟨t₁, hstrike, _⟩ := run_cons_eq_some_iff.1 hrest
    obtain ⟨hbegun, hleft, n, call, hhas, hholder⟩ := (orderly_of_run hfirst).strike hstrike
    exact ⟨hbegun, hleft, t₀, n, call, hfirst, hhas, hholder⟩
  · intro c n call reply b x hhas hdone hraised hkind
    have hverdict := horderly.verdict hhas hdone
    have hfailure := Outcome.failure?_of_raised hraised b
    rw [Failure.ofRaised_of_interrupt hkind] at hfailure
    refine ⟨.ofExchange b (.ok reply), _, ?_, hfailure, ?_, ?_⟩
    · unfold Call.outcome?
      rw [hdone]
    · rw [← hverdict]
      cases b <;> simp [Failure.timeout]
    · intro hne
      cases b with
      | true => exact absurd rfl hne
      | false => rfl
  · intro c n call hhas huntimed
    refine horderly.not_mark hhas (huntimed.imp_right fun hnone => ?_)
    rw [cell?_of_run h, hnone]
    rfl

theorem Stage.eq_done {s : Stage} {reply : Reply} {b : Bool}
    (h : (s.rank, s.result?.bind (·.toOption), s.verdict?) = (10, some reply, some b)) : s = .done (.ok reply) b := by
  cases s with
  | done r b' =>
    cases r with
    | ok reply' =>
      cases h
      rfl
    | error e => cases h
  | _ => cases h

/-- A worker whose interpreter reads and keeps silent. -/
def quietWorker : Worker :=
  ⟨⟨⟨⟨false, [], .goesOn⟩, fun _ => ⟨false, [], .goesOn⟩⟩, [], [], [], none, [], .running⟩, "3.12", some .clear, 1⟩

/-- The line by which an interpreter answers that a request was interrupted. -/
def interruptLine (id : String) : String :=
  "\x7b\"type\":\"result\",\"id\":" ++ id ++ ",\"ok\":false,\"error\":" ++
    "\x7b\"kind\":\"KeyboardInterrupt\"\x7d" ++ "\x7d\n"

def interruptReply (id : Nat) : Reply := ⟨some id, false, "", "", none, some ⟨interruptException, "", ""⟩⟩

/-- The watchdog of the first call fires. The second call has no time budget, and is interrupted by somebody else. -/
def interruptions : List Event :=
  [.lobby .arrive, .lobby (.installed 0), .lobby (.launched 0), .call ⟨⟨some 50, "lib"⟩, "f()", none⟩,
    .call ⟨⟨none, "lib"⟩, "g()", none⟩,
    .move 0 .enter, .move 0 .begin, .move 0 .arm, .move 0 .send, .move 0 .mark, .move 0 .strike,
    .plays 0 (.printed (interruptLine "1")), .move 0 .listen, .move 0 .stop, .move 0 .settle, .move 0 .judge,
    .move 0 .leave, .report 0,
    .move 1 .enter, .move 1 .begin, .move 1 .arm, .move 1 .send, .plays 0 (.printed (interruptLine "2")),
    .move 1 .listen, .move 1 .stop, .move 1 .settle, .move 1 .judge, .move 1 .leave, .report 1]

/-- The first call is timed out. The second one, which follows it, gets the exception as it is. -/
theorem timeouts_attributed_interruptions :
    ∃ t call call', (opened fun _ => quietWorker).run interruptions = some t ∧
      t.Has 0 0 call ∧ call.stage = .done (.ok (interruptReply 1)) true ∧
      (∃ o, call.outcome? = some o ∧ o.failure? = some .timeout) ∧
      t.Has 1 0 call' ∧ call'.stage = .done (.ok (interruptReply 2)) false ∧
      (∃ o, call'.outcome? = some o ∧ o.failure? = some ⟨.exception "KeyboardInterrupt", "", ""⟩) := by
  let shown (call : Call) := (call.worker?, call.stage.rank, call.stage.result?.bind (·.toOption), call.stage.verdict?)
  have hrun : ((opened fun _ => quietWorker).run interruptions).map (fun t => t.calls.map shown) =
      some [(some 0, 10, some (interruptReply 1), some true), (some 0, 10, some (interruptReply 2), some false)] := by
    decide +kernel
  obtain ⟨t, h, hcalls⟩ := Option.map_eq_some_iff.1 hrun
  obtain ⟨call, rest, hlist, hcall, hrest⟩ := List.map_eq_cons_iff.1 hcalls
  obtain ⟨call', rest', rfl, hcall', _⟩ := List.map_eq_cons_iff.1 hrest
  have hhas : t.Has 0 0 call := ⟨by rw [hlist]; rfl, congrArg (·.1) hcall⟩
  have hhas' : t.Has 1 0 call' := ⟨by rw [hlist]; rfl, congrArg (·.1) hcall'⟩
  have hdone := Stage.eq_done (congrArg (·.2) hcall)
  have hdone' := Stage.eq_done (congrArg (·.2) hcall')
  obtain ⟨_, _, _, hlabel, _⟩ := timeouts_attributed h
  obtain ⟨o, f, ho, hf, htimeout, _⟩ := hlabel 0 0 call _ _ _ hhas hdone rfl rfl
  obtain ⟨o', f', ho', hf', htimeout', hkept⟩ := hlabel 1 0 call' _ _ _ hhas' hdone' rfl rfl
  have htimeouts : f = .timeout := htimeout.2 (by decide)
  have hother : f' ≠ .timeout := fun heq => absurd (htimeout'.1 heq) (by decide)
  refine ⟨t, call, call', h, hhas, hdone, ⟨o, ho, ?_⟩, hhas', hdone', ⟨o', ho', ?_⟩⟩
  · rw [hf, htimeouts]
  · rw [hf', hkept hother]
    rfl

end Traffic

end ScriptBench
