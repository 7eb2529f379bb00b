import ScriptBench.Proofs.Traffic.Orderly

/-! Who drops the live worker. It is a shutdown, or a call whose own exchange with this worker crashed. -/
namespace ScriptBench

namespace Traffic

variable {t t' : Traffic} {past : List Event} {c n : Nat} {call : Call} {x : Event} {cause : CrashCause}

/-- The exchange of a call crashes next: its request cannot be written, or the output of its worker has ended or is not
UTF-8. -/
def Breaks (t : Traffic) (c n : Nat) (cause : CrashCause) : Prop :=
  ∃ call id, t.Has c n call ∧
    (call.stage = .armed id ∧ (∃ w, (t.seats n).worker.send (call.request id) = .error (.crashed cause, w)) ∨
      call.stage = .written id ∧
        ∃ w, (t.seats n).worker.listen id = (.answered (.error (.crashed cause)), w))

/-- A call has left its worker, and its exchange has crashed. It has not reported this yet. -/
def Crashed (t : Traffic) (c n : Nat) (cause : CrashCause) : Prop :=
  ∃ call b, t.Has c n call ∧ call.stage = .left (.error (.crashed cause)) b

/-- A crash is one that the call had before, or its exchange crashes with this step. -/
theorem crash_step (ht : t.step x = some t') (hcall : t'.Has c n call)
    (hcrash : call.stage.result? = some (.error (.crashed cause))) :
    (∃ old, t.Has c n old ∧ old.stage.result? = some (.error (.crashed cause))) ∨ t.Breaks c n cause := by
  cases x with
  | lobby y =>
    obtain ⟨_, _, _, hcalls⟩ := lobbyStep_eq_some ht
    exact .inl ⟨call, ⟨hcalls ▸ hcall.get, hcall.keeps⟩, hcrash⟩
  | call job =>
    cases ht
    rcases has_receive_iff.1 hcall with hold | ⟨_, _, rfl⟩
    · exact .inl ⟨call, hold, hcrash⟩
    · cases hcrash
  | move c' m =>
    obtain ⟨old, n', new, seat, hget, hkeeps, hmove, rfl⟩ := move_eq_some_iff.1 ht
    have hold : t.Has c' n' old := ⟨hget, hkeeps⟩
    have hmoved := Call.moved_of_move hmove
    rcases (has_set_iff hold rfl (hmoved.worker?.trans hkeeps)).1 hcall with ⟨_, hcall⟩ | ⟨rfl, rfl, rfl⟩
    · exact .inl ⟨call, hcall, hcrash⟩
    · cases hmoved with
      | enter | begin | arm | sent => cases hcrash
      | unsent id e w hstage hunsent =>
        cases hcrash
        exact .inr ⟨old, id, hold, .inl ⟨hstage, w, hunsent⟩⟩
      | heard id r w hstage hheard =>
        cases hcrash
        exact .inr ⟨old, id, hold, .inr ⟨hstage, w, hheard⟩⟩
      | stop r hstage | settle r hstage hover | judge r hstage | leave r b hstage =>
        refine .inl ⟨old, hold, ?_⟩
        rw [hstage]
        exact hcrash
      | silent | mark | strike | dismiss => exact .inl ⟨_, hold, hcrash⟩
  | report c' =>
    obtain ⟨old, n', r, b, hget, hkeeps, hstage, rfl⟩ := report_eq_some_iff.1 ht
    have hold : t.Has c' n' old := ⟨hget, hkeeps⟩
    have hkeeps' : ({ old with stage := .done r b } : Call).worker? = some n' := hkeeps
    rcases (has_set_iff hold rfl hkeeps').1 hcall with ⟨_, hcall⟩ | ⟨rfl, rfl, rfl⟩
    · exact .inl ⟨call, hcall, hcrash⟩
    · refine .inl ⟨old, hold, ?_⟩
      rw [hstage]
      exact hcrash
  | close n' =>
    obtain ⟨_, _, rfl⟩ := close_eq_some_iff.1 ht
    exact .inl ⟨call, ⟨hcall.get, hcall.keeps⟩, hcrash⟩
  | plays n' p =>
    cases ht
    exact .inl ⟨call, ⟨hcall.get, hcall.keeps⟩, hcrash⟩

/-- Whoever has crashed did so in an exchange with the own worker. -/
def Broke (workers : Nat → Worker) (past : List Event) (t : Traffic) : Prop :=
  ∀ c n call cause, t.Has c n call → call.stage.result? = some (.error (.crashed cause)) →
    ∃ first later t₀, past = first ++ later ∧ (opened workers).run first = some t₀ ∧ t₀.Breaks c n cause

theorem Broke.step {workers : Nat → Worker} (h : Broke workers past t) (hpast : (opened workers).run past = some t)
    (ht : t.step x = some t') : Broke workers (past ++ [x]) t' := by
  intro c n call cause hcall hcrash
  rcases crash_step ht hcall hcrash with ⟨old, hold, hcrash⟩ | hbreaks
  · obtain ⟨first, later, t₀, rfl, hfirst, hbreaks⟩ := h c n old cause hold hcrash
    exact ⟨first, later ++ [x], t₀, List.append_assoc first later [x], hfirst, hbreaks⟩
  · exact ⟨past, [x], t, rfl, hpast, hbreaks⟩

theorem broke_of_run {workers : Nat → Worker} {events : List Event} (h : (opened workers).run events = some t) :
    Broke workers events t := by
  have hstart : (opened workers).run [] = some (opened workers) ∧ Broke workers [] (opened workers) :=
    ⟨rfl, fun c n call cause hcall _ => nomatch hcall.get⟩
  have hstep : ∀ past t t' x, (opened workers).run past = some t ∧ Broke workers past t → t.step x = some t' →
      (opened workers).run (past ++ [x]) = some t' ∧ Broke workers (past ++ [x]) t' := by
    rintro past t t' x ⟨hpast, hbroke⟩ hx
    exact ⟨run_append_eq_some_iff.2 ⟨t, hpast, run_cons_eq_some_iff.2 ⟨t', hx, rfl⟩⟩, hbroke.step hpast hx⟩
  exact (run_induction hstep hstart h).2

/-! What a report does -/

/-- A crash that is reported takes its worker away if it is still the live one, and leaves a newer one alone. -/
theorem report_crashed (hcrashed : t.Crashed c n cause) (ht : t.report c = some t') :
    t'.lobby = t.lobby.forget n (.crashed cause) ∧
      ∃ call, t'.Has c n call ∧ call.outcome? = some (.ofError (.crashed cause)) := by
  obtain ⟨old, n', r, b, hget, hkeeps, hstage, rfl⟩ := report_eq_some_iff.1 ht
  obtain ⟨call, b', hcall, hleft⟩ := hcrashed
  have hold : t.Has c n' old := ⟨hget, hkeeps⟩
  obtain ⟨rfl, rfl⟩ := hcall.unique hold
  rw [hstage] at hleft
  injection hleft with hr hb
  subst hr
  have hkeeps' : ({ call with stage := .done (.error (.crashed cause)) b } : Call).worker? = some n := hkeeps
  exact ⟨rfl, _, (has_set_iff hold rfl hkeeps').2 (.inr ⟨rfl, rfl, rfl⟩), rfl⟩

theorem report_other (ht : t.report c = some t') (hother : ∀ n cause, ¬t.Crashed c n cause) : t'.lobby = t.lobby := by
  obtain ⟨old, n, r, b, hget, hkeeps, hstage, rfl⟩ := report_eq_some_iff.1 ht
  change t.lobby.afterCall n r = t.lobby
  unfold Lobby.afterCall
  split
  · rename_i cause
    exact absurd ⟨old, b, ⟨hget, hkeeps⟩, hstage⟩ (hother n cause)
  · rfl

theorem exists_report_of_crashed (h : t.Crashed c n cause) : ∃ t', t.report c = some t' := by
  obtain ⟨call, b, hcall, hstage⟩ := h
  exact ⟨_, report_eq_some_iff.2 ⟨call, n, _, b, hcall.get, hcall.keeps, hstage, rfl⟩⟩

/-- Whether a step is one of a call. -/
def Event.IsOfCall : Event → Prop
  | .call _ | .move _ _ | .report _ => True
  | .lobby _ | .close _ | .plays _ _ => False

/-- No step of a call changes the lobby, but the report of a crash. -/
theorem lobby_of_call_step (hx : x.IsOfCall) (ht : t.step x = some t')
    (hother : ∀ c n cause, x = .report c → ¬t.Crashed c n cause) : t'.lobby = t.lobby := by
  cases x with
  | lobby | close | plays => exact hx.elim
  | call job =>
    cases ht
    rfl
  | move c m =>
    obtain ⟨_, _, _, _, _, _, _, rfl⟩ := move_eq_some_iff.1 ht
    rfl
  | report c => exact report_other ht fun n cause => hother c n cause rfl

/-! The live worker -/

theorem lobby_step (ht : t.step x = some t') :
    t'.lobby = t.lobby ∨
      (∃ y, x = .lobby y ∧ (∀ w reason, y ≠ .forget w reason) ∧ t.lobby.step y = some t'.lobby) ∨
      ∃ c n cause, x = .report c ∧ t.Crashed c n cause ∧ t'.lobby = t.lobby.forget n (.crashed cause) := by
  cases x with
  | lobby y =>
    obtain ⟨hne, hlobby, _, _⟩ := lobbyStep_eq_some ht
    exact .inr (.inl ⟨y, rfl, hne, hlobby⟩)
  | call job =>
    have hx : (Event.call job).IsOfCall := trivial
    exact .inl (lobby_of_call_step hx ht fun _ _ _ hreport => nomatch hreport)
  | move c m =>
    have hx : (Event.move c m).IsOfCall := trivial
    exact .inl (lobby_of_call_step hx ht fun _ _ _ hreport => nomatch hreport)
  | report c =>
    by_cases hcrashed : ∃ n cause, t.Crashed c n cause
    · obtain ⟨n, cause, hcrashed⟩ := hcrashed
      exact .inr (.inr ⟨c, n, cause, rfl, hcrashed, (report_crashed hcrashed ht).1⟩)
    · exact .inl (report_other ht fun n cause hc => hcrashed ⟨n, cause, hc⟩)
  | close n =>
    obtain ⟨_, _, rfl⟩ := close_eq_some_iff.1 ht
    exact .inl rfl
  | plays n p =>
    cases ht
    exact .inl rfl

/-- The lobby makes a step of its own, or none. -/
theorem exists_lobby_step (ht : t.step x = some t') :
    t'.lobby = t.lobby ∨ ∃ y, t.lobby.step y = some t'.lobby := by
  rcases lobby_step ht with heq | ⟨y, _, _, hy⟩ | ⟨c, n, cause, _, _, heq⟩
  · exact .inl heq
  · exact .inr ⟨y, hy⟩
  · exact .inr ⟨.forget n (.crashed cause), congrArg some heq.symm⟩

theorem Orderly.gone_run {later : List Event} (h : t.Orderly past) (hn : n < t.lobby.workers)
    (hgone : t.lobby.supervisor.live ≠ some n) (ht : t.run later = some t') : t'.lobby.supervisor.live ≠ some n := by
  have hstep : ∀ (past : List Event) (t t' : Traffic) (x : Event),
      t.Orderly past ∧ n < t.lobby.workers ∧ t.lobby.supervisor.live ≠ some n → t.step x = some t' →
      t'.Orderly (past ++ [x]) ∧ n < t'.lobby.workers ∧ t'.lobby.supervisor.live ≠ some n := by
    rintro past t t' x ⟨horderly, hn, hgone⟩ hx
    refine ⟨horderly.step hx, ?_⟩
    rcases exists_lobby_step hx with heq | ⟨y, hy⟩
    · rw [heq]
      exact ⟨hn, hgone⟩
    · exact horderly.lobby.gone_step hn hgone hy
  have hstart : t.Orderly past ∧ n < t.lobby.workers ∧ t.lobby.supervisor.live ≠ some n := ⟨h, hn, hgone⟩
  exact (run_induction hstep hstart ht).2.2

/-- The live worker is dropped by a shutdown, or by the report of a call whose own exchange with it crashed. -/
theorem Orderly.dropped (h : t.Orderly past) (ht : t.step x = some t') (hlive : t.lobby.supervisor.live = some n)
    (hgone : t'.lobby.supervisor.live ≠ some n) :
    x = .lobby .take ∨ ∃ c cause, x = .report c ∧ t.Crashed c n cause := by
  rcases lobby_step ht with heq | ⟨y, rfl, hne, hy⟩ | ⟨c, n', cause, rfl, hcrashed, heq⟩
  · rw [heq] at hgone
    exact absurd hlive hgone
  · rcases h.lobby.live_step hy with heq | ⟨hnone, _⟩ | ⟨_, rfl | ⟨w, reason, rfl, _⟩⟩
    · rw [heq] at hgone
      exact absurd hlive hgone
    · rw [hlive] at hnone
      cases hnone
    · exact .inl rfl
    · exact absurd rfl (hne w reason)
  · refine .inr ⟨c, cause, rfl, ?_⟩
    by_cases hn : n' = n
    · exact hn ▸ hcrashed
    · have hother : t.lobby.supervisor.live ≠ some n' := by
        rw [hlive]
        intro heq
        injection heq with heq
        exact hn heq.symm
      have hsame : t'.lobby.supervisor.live = t.lobby.supervisor.live := by
        rw [heq]
        exact congrArg (·.live) (Supervisor.forget_of_ne hother _)
      rw [hsame] at hgone
      exact absurd hlive hgone

/-- In every order of calls, callers, starts, shutdowns and crashes: the live worker is dropped by a shutdown, or by the
report of a call whose own exchange with it crashed. Such a report gives the crash to the caller. If the worker is the
live one, it is dropped and the crash is the last error, and otherwise the supervisor stays as it is. The worker is
never live again. No other step of a call changes the supervisor. -/
theorem live_dropped_by_own_crash {workers : Nat → Worker} {events : List Event}
    (h : (opened workers).run events = some t) :
    (∀ x t' n, t.step x = some t' → t.lobby.supervisor.live = some n → t'.lobby.supervisor.live ≠ some n →
      x = .lobby .take ∨ ∃ c cause, x = .report c ∧ t.Crashed c n cause) ∧
    (∀ c n cause, t.Crashed c n cause → cause.OfExchange ∧
      (∃ first later t₀, events = first ++ later ∧ (opened workers).run first = some t₀ ∧ t₀.Breaks c n cause) ∧
      ∃ t', t.step (.report c) = some t' ∧
        (∃ call, t'.Has c n call ∧ call.outcome? = some (.ofError (.crashed cause))) ∧
        (t.lobby.supervisor.live = some n →
          t'.lobby.supervisor = { t.lobby.supervisor with live := none, lastError := some (.crashed cause) }) ∧
        (t.lobby.supervisor.live ≠ some n → t'.lobby.supervisor = t.lobby.supervisor) ∧
        ∀ later t'', t'.run later = some t'' → t''.lobby.supervisor.live ≠ some n) ∧
    (∀ x t', x.IsOfCall → t.step x = some t' → (∀ c n cause, x = .report c → ¬t.Crashed c n cause) →
      t'.lobby.supervisor = t.lobby.supervisor) := by
  have horderly := orderly_of_run h
  refine ⟨fun x t' n ht hlive hgone => horderly.dropped ht hlive hgone, fun c n cause hcrashed => ?_,
    fun x t' hx ht hother => ?_⟩
  · obtain ⟨t', ht⟩ := exists_report_of_crashed hcrashed
    obtain ⟨hlobby, houtcome⟩ := report_crashed hcrashed ht
    have horderly' : t'.Orderly (events ++ [.report c]) := horderly.report ht
    obtain ⟨call, b, hcall, hstage⟩ := hcrashed
    have hresult : call.stage.result? = some (.error (.crashed cause)) := by
      rw [hstage]
      rfl
    have hforget : t'.lobby.supervisor = t.lobby.supervisor.forget n (.crashed cause) := by
      rw [hlobby]
      rfl
    have hworkers : n < t'.lobby.workers := by
      rw [hlobby]
      exact horderly.known c n call hcall
    have hgone : t'.lobby.supervisor.live ≠ some n := by
      rw [hforget]
      by_cases hlive : t.lobby.supervisor.live = some n
      · rw [Supervisor.forget_of_live hlive]
        exact nofun
      · rw [Supervisor.forget_of_ne hlive]
        exact hlive
    refine ⟨(horderly.fits c n call hcall).result _ hresult, broke_of_run h c n call cause hcall hresult, t', ht,
      houtcome, fun hlive => ?_, fun hlive => ?_,
      fun later t'' hlater => horderly'.gone_run hworkers hgone hlater⟩
    · rw [hforget, Supervisor.forget_of_live hlive]
    · rw [hforget, Supervisor.forget_of_ne hlive]
  · rw [lobby_of_call_step hx ht hother]

/-- A worker whose interpreter reads nothing more. -/
def deafWorker : Worker :=
  ⟨⟨⟨⟨false, [], .goesOn⟩, fun _ => ⟨false, [], .goesOn⟩⟩, [], [], [], none, [], .deaf 0⟩, "3.12", none, 1⟩

/-- What a call does whose request cannot be written. -/
def unsentCall (c : Nat) : List Event :=
  [.move c .enter, .move c .begin, .move c .arm, .move c .send, .move c .stop, .move c .settle, .move c .judge,
    .move c .leave]

/-- Two calls come to the first worker and crash. The first one reports this, and a second worker is started. The report
of the second one then leaves the second worker alone. -/
theorem live_dropped_by_own_crash_replaced :
    ∃ t t', (opened fun _ => deafWorker).run ([.lobby .arrive, .lobby (.installed 0), .lobby (.launched 0),
        .call ⟨⟨none, "lib"⟩, "f()", none⟩, .call ⟨⟨none, "lib"⟩, "g()", none⟩] ++ unsentCall 0 ++ [.report 0] ++
        unsentCall 1 ++ [.lobby .arrive, .lobby (.installed 1), .lobby (.launched 1)]) = some t ∧
      t.Crashed 1 0 (.notWritten .brokenPipe) ∧ t.lobby.supervisor = ⟨some 1, false, false, false, none, 2⟩ ∧
      t.step (.report 1) = some t' ∧ t'.lobby.supervisor = ⟨some 1, false, false, false, none, 2⟩ := by
  have hrun : ∃ t, (opened fun _ => deafWorker).run ([.lobby .arrive, .lobby (.installed 0), .lobby (.launched 0),
      .call ⟨⟨none, "lib"⟩, "f()", none⟩, .call ⟨⟨none, "lib"⟩, "g()", none⟩] ++ unsentCall 0 ++ [.report 0] ++
      unsentCall 1 ++ [.lobby .arrive, .lobby (.installed 1), .lobby (.launched 1)]) = some t ∧
      t.Crashed 1 0 (.notWritten .brokenPipe) ∧ t.lobby.supervisor = ⟨some 1, false, false, false, none, 2⟩ :=
    ⟨_, rfl, ⟨_, _, ⟨rfl, rfl⟩, rfl⟩, rfl⟩
  obtain ⟨t, h, hcrashed, hsupervisor⟩ := hrun
  obtain ⟨_, _, t', ht, _, _, hkept, _⟩ := (live_dropped_by_own_crash h).2.1 1 0 _ hcrashed
  have hother : t.lobby.supervisor.live ≠ some 0 := by
    rw [hsupervisor]
    decide
  exact ⟨t, t', h, hcrashed, hsupervisor, ht, (hkept hother).trans hsupervisor⟩

end Traffic

end ScriptBench
