import ScriptBench.Proofs.Traffic.Floor

/-! What holds at any time of calls and their workers. A session is held by one call at most, and every call fits its
worker and its own moves. -/
namespace ScriptBench

namespace Traffic

/-- The call with a number keeps to a worker. -/
structure Has (t : Traffic) (c n : Nat) (call : Call) : Prop where
  get : t.calls[c]? = some call
  keeps : call.worker? = some n

/-- How the lobby, the sessions, the calls and what they did before fit together. -/
structure Orderly (past : List Event) (t : Traffic) : Prop where
  lobby : t.lobby.Orderly
  holder_iff : ∀ n c, (t.seats n).holder? = some c ↔ ∃ call, t.Has c n call ∧ call.stage.inSession = true
  fits : ∀ c n call, t.Has c n call → call.Fits (t.seats n).worker
  told : ∀ c n call, t.Has c n call → call.Told (movesOf c past)
  known : ∀ c n call, t.Has c n call → n < t.lobby.workers
  turnedAway : ∀ (c : Nat) (call : Call), t.calls[c]? = some call → call.worker? = none →
    call.stage = .done (.error .notReady) false ∧ call.watchdog = .absent
  unborn : ∀ c, t.calls.length ≤ c → movesOf c past = []

variable {t t' : Traffic} {past : List Event} {c n : Nat} {call : Call}

theorem orderly_opened (workers : Nat → Worker) : (opened workers).Orderly [] := by
  have hnone : ∀ c n call, ¬(opened workers).Has c n call := by
    intro c n call h
    cases h.get
  refine ⟨Lobby.orderly_initial, fun n c => ?_, ?_, ?_, ?_, ?_, fun _ _ => rfl⟩
  · constructor
    · intro h
      cases h
    · rintro ⟨call, h, _⟩
      exact absurd h (hnone c n call)
  · exact fun c n call h => absurd h (hnone c n call)
  · exact fun c n call h => absurd h (hnone c n call)
  · exact fun c n call h => absurd h (hnone c n call)
  · intro c call h
    cases h

theorem Has.unique {n' : Nat} {call' : Call} (h : t.Has c n call) (h' : t.Has c n' call') : n = n' ∧ call = call' := by
  have hcall : call = call' := by
    have := h.get.symm.trans h'.get
    injection this
  subst hcall
  have hn := h.keeps.symm.trans h'.keeps
  injection hn with hn
  exact ⟨hn, rfl⟩

theorem Has.lt (h : t.Has c n call) : c < t.calls.length := (List.getElem?_eq_some_iff.1 h.get).1

/-- The lobby goes on, and the seats and the calls stay as they are. -/
theorem Orderly.of_lobby (h : t.Orderly past) (x : Event) (hx : ∀ c, movesOf c [x] = []) (hlobby : t'.lobby.Orderly)
    (hworkers : t.lobby.workers ≤ t'.lobby.workers) (hseats : t'.seats = t.seats) (hcalls : t'.calls = t.calls) :
    t'.Orderly (past ++ [x]) := by
  have hmoves : ∀ c, movesOf c (past ++ [x]) = movesOf c past := by
    intro c
    rw [movesOf_concat, hx, List.append_nil]
  have hhas : ∀ {c n call}, t'.Has c n call → t.Has c n call := fun h => ⟨hcalls ▸ h.get, h.keeps⟩
  refine ⟨hlobby, fun n c => ?_, ?_, ?_, ?_, ?_, ?_⟩
  · rw [hseats, h.holder_iff]
    constructor
    · rintro ⟨call, hcall, hin⟩
      exact ⟨call, ⟨hcalls ▸ hcall.get, hcall.keeps⟩, hin⟩
    · rintro ⟨call, hcall, hin⟩
      exact ⟨call, hhas hcall, hin⟩
  · intro c n call hcall
    rw [hseats]
    exact h.fits c n call (hhas hcall)
  · intro c n call hcall
    rw [hmoves]
    exact h.told c n call (hhas hcall)
  · intro c n call hcall
    exact Nat.lt_of_lt_of_le (h.known c n call (hhas hcall)) hworkers
  · rw [hcalls]
    exact h.turnedAway
  · intro c hc
    rw [hmoves]
    exact h.unborn c (hcalls ▸ hc)

theorem Orderly.lobbyStep {y : Lobby.Event} (h : t.Orderly past) (ht : t.lobbyStep y = some t') :
    t'.Orderly (past ++ [.lobby y]) := by
  obtain ⟨_, hlobby, hseats, hcalls⟩ := lobbyStep_eq_some ht
  exact h.of_lobby (.lobby y) (fun _ => rfl) (h.lobby.step hlobby) (Lobby.workers_le_step hlobby) hseats hcalls

/-- Behind the arrival of a call there are the old ones and the new one. -/
theorem has_receive_iff {job : Job} :
    (t.receive job).Has c n call ↔ t.Has c n call ∨
      c = t.calls.length ∧ t.lobby.supervisor.live = some n ∧ call = ⟨job, some n, .queued, .absent⟩ := by
  constructor
  · rintro ⟨hget, hkeeps⟩
    change (t.calls ++ [newCall t.lobby.supervisor.live job])[c]? = some call at hget
    rw [List.getElem?_append] at hget
    split at hget
    · exact .inl ⟨hget, hkeeps⟩
    · rename_i hlt
      obtain ⟨hc, hnew⟩ := List.getElem?_eq_some_iff.1 hget
      rw [List.length_singleton] at hc
      rw [List.getElem_singleton] at hnew
      refine .inr ⟨by omega, ?_⟩
      cases hlive : t.lobby.supervisor.live with
      | none =>
        rw [hlive] at hnew
        rw [← hnew] at hkeeps
        cases hkeeps
      | some n' =>
        rw [hlive] at hnew
        rw [← hnew] at hkeeps ⊢
        cases hkeeps
        exact ⟨rfl, rfl⟩
  · rintro (h | ⟨rfl, hlive, rfl⟩)
    · refine ⟨?_, h.keeps⟩
      change (t.calls ++ [newCall t.lobby.supervisor.live job])[c]? = some call
      rw [List.getElem?_append_left h.lt]
      exact h.get
    · refine ⟨?_, rfl⟩
      change (t.calls ++ [newCall t.lobby.supervisor.live job])[t.calls.length]? = _
      rw [List.getElem?_concat_length, hlive]
      rfl

/-- A new call waits for the session of the live worker, or is over. -/
theorem Orderly.receive (h : t.Orderly past) (job : Job) : (t.receive job).Orderly (past ++ [.call job]) := by
  have hmoves : ∀ c, movesOf c (past ++ [.call job]) = movesOf c past := by
    intro c
    rw [movesOf_concat]
    exact List.append_nil _
  refine ⟨h.lobby, fun n c => ?_, ?_, ?_, ?_, ?_, ?_⟩
  · constructor
    · intro hholder
      obtain ⟨call, hcall, hin⟩ := (h.holder_iff n c).1 hholder
      exact ⟨call, has_receive_iff.2 (.inl hcall), hin⟩
    · rintro ⟨call, hcall, hin⟩
      rcases has_receive_iff.1 hcall with hcall | ⟨_, _, rfl⟩
      · exact (h.holder_iff n c).2 ⟨call, hcall, hin⟩
      · cases hin
  · intro c n call hcall
    rcases has_receive_iff.1 hcall with hcall | ⟨_, _, rfl⟩
    · exact h.fits c n call hcall
    · exact Call.fits_queued job n _
  · intro c n call hcall
    rw [hmoves]
    rcases has_receive_iff.1 hcall with hcall | ⟨hc, _, rfl⟩
    · exact h.told c n call hcall
    · rw [h.unborn c (Nat.le_of_eq hc.symm)]
      exact Call.told_queued job n
  · intro c n call hcall
    rcases has_receive_iff.1 hcall with hcall | ⟨_, hlive, _⟩
    · exact h.known c n call hcall
    · exact h.lobby.live_lt n hlive
  · intro c call hget hnone
    change (t.calls ++ [newCall t.lobby.supervisor.live job])[c]? = some call at hget
    rw [List.getElem?_append] at hget
    split at hget
    · exact h.turnedAway c call hget hnone
    · obtain ⟨_, hcall⟩ := List.getElem?_eq_some_iff.1 hget
      rw [List.getElem_singleton] at hcall
      subst hcall
      cases hlive : t.lobby.supervisor.live with
      | none => exact ⟨rfl, rfl⟩
      | some n =>
        rw [hlive] at hnone
        cases hnone
  · intro c hc
    rw [hmoves]
    change (t.calls ++ [newCall t.lobby.supervisor.live job]).length ≤ c at hc
    rw [List.length_append] at hc
    exact h.unborn c (by omega)

/-- Behind the change of a call there are the others as before and the changed one. -/
theorem has_set_iff {c' n' : Nat} {call' old : Call} (hold : t.Has c n old)
    (hcalls : t'.calls = t.calls.set c call) (hkeeps : call.worker? = some n) :
    t'.Has c' n' call' ↔ c' ≠ c ∧ t.Has c' n' call' ∨ c' = c ∧ n' = n ∧ call' = call := by
  have hself : (t.calls.set c call)[c]? = some call := List.getElem?_set_self hold.lt
  constructor
  · rintro ⟨hget, hkeeps'⟩
    rw [hcalls] at hget
    by_cases hc : c' = c
    · subst hc
      rw [hself] at hget
      injection hget with hcall
      subst hcall
      rw [hkeeps] at hkeeps'
      injection hkeeps' with hn
      exact .inr ⟨rfl, hn.symm, rfl⟩
    · rw [List.getElem?_set_ne (Ne.symm hc)] at hget
      exact .inl ⟨hc, hget, hkeeps'⟩
  · rintro (⟨hc, h⟩ | ⟨rfl, rfl, rfl⟩)
    · refine ⟨?_, h.keeps⟩
      rw [hcalls, List.getElem?_set_ne (Ne.symm hc)]
      exact h.get
    · exact ⟨by rw [hcalls, hself], hkeeps⟩

/-- A call that does not hold a session stays as it is when others move. -/
theorem Orderly.outside {c' : Nat} {call' : Call} (h : t.Orderly past) (hcall' : t.Has c' n call')
    (hholder : (t.seats n).holder? = none ∨ (t.seats n).holder? = some c) (hc : c' ≠ c) :
    call'.stage.inSession = false := by
  refine Bool.eq_false_iff.2 fun hin => ?_
  have hself := (h.holder_iff n c').2 ⟨call', hcall', hin⟩
  rcases hholder with hfree | hholder
  · rw [hfree] at hself
    cases hself
  · rw [hholder] at hself
    injection hself with heq
    exact hc heq.symm

/-- A call goes on, and with it its seat and the lobby may. The other calls of the worker must fit the new seat. -/
theorem Orderly.turn {x : Event} {old : Call} {seat : Seat} (h : t.Orderly past) (hold : t.Has c n old)
    (hx : ∀ c', c' ≠ c → movesOf c' [x] = []) (hlobby : t'.lobby.Orderly)
    (hworkers : t.lobby.workers ≤ t'.lobby.workers)
    (hseats : t'.seats = (t.setSeat n seat).seats) (hcalls : t'.calls = t.calls.set c call)
    (hkeeps : call.worker? = some n)
    (hothers : ∀ c', c' ≠ c → (seat.holder? = some c' ↔ (t.seats n).holder? = some c'))
    (hself : seat.holder? = some c ↔ call.stage.inSession = true)
    (hfit : ∀ c' call', c' ≠ c → t.Has c' n call' → call'.Fits seat.worker) (hfits : call.Fits seat.worker)
    (htold : call.Told (movesOf c (past ++ [x]))) : t'.Orderly (past ++ [x]) := by
  have hhas : ∀ {c' n' call'}, t'.Has c' n' call' ↔
      c' ≠ c ∧ t.Has c' n' call' ∨ c' = c ∧ n' = n ∧ call' = call := has_set_iff hold hcalls hkeeps
  have hmoves : ∀ c', c' ≠ c → movesOf c' (past ++ [x]) = movesOf c' past := by
    intro c' hc
    rw [movesOf_concat, hx c' hc, List.append_nil]
  have hhere : t'.seats n = seat := by rw [hseats, seats_setSeat_self]
  have helsewhere : ∀ n', n' ≠ n → t'.seats n' = t.seats n' := by
    intro n' hn
    rw [hseats, seats_setSeat_of_ne hn]
  refine ⟨hlobby, fun n' c' => ?_, ?_, ?_, ?_, ?_, ?_⟩
  · by_cases hc : c' = c
    · subst hc
      by_cases hn : n' = n
      · subst hn
        rw [hhere, hself]
        constructor
        · intro hin
          exact ⟨call, hhas.2 (.inr ⟨rfl, rfl, rfl⟩), hin⟩
        · rintro ⟨call', hcall', hin⟩
          rcases hhas.1 hcall' with ⟨hne, _⟩ | ⟨_, _, rfl⟩
          · exact absurd rfl hne
          · exact hin
      · rw [helsewhere n' hn, h.holder_iff]
        constructor
        · rintro ⟨call', hcall', _⟩
          exact absurd (hcall'.unique hold).1 hn
        · rintro ⟨call', hcall', _⟩
          rcases hhas.1 hcall' with ⟨hne, _⟩ | ⟨_, hn', _⟩
          · exact absurd rfl hne
          · exact absurd hn' hn
    · have hsame : (t'.seats n').holder? = some c' ↔ (t.seats n').holder? = some c' := by
        by_cases hn : n' = n
        · subst hn
          rw [hhere]
          exact hothers c' hc
        · rw [helsewhere n' hn]
      rw [hsame, h.holder_iff]
      constructor
      · rintro ⟨call', hcall', hin⟩
        exact ⟨call', hhas.2 (.inl ⟨hc, hcall'⟩), hin⟩
      · rintro ⟨call', hcall', hin⟩
        rcases hhas.1 hcall' with ⟨_, hcall'⟩ | ⟨hc', _⟩
        · exact ⟨call', hcall', hin⟩
        · exact absurd hc' hc
  · intro c' n' call' hcall'
    rcases hhas.1 hcall' with ⟨hc, hcall'⟩ | ⟨rfl, rfl, rfl⟩
    · by_cases hn : n' = n
      · subst hn
        rw [hhere]
        exact hfit c' call' hc hcall'
      · rw [helsewhere n' hn]
        exact h.fits c' n' call' hcall'
    · rw [hhere]
      exact hfits
  · intro c' n' call' hcall'
    rcases hhas.1 hcall' with ⟨hc, hcall'⟩ | ⟨rfl, rfl, rfl⟩
    · rw [hmoves c' hc]
      exact h.told c' n' call' hcall'
    · exact htold
  · intro c' n' call' hcall'
    refine Nat.lt_of_lt_of_le ?_ hworkers
    rcases hhas.1 hcall' with ⟨_, hcall'⟩ | ⟨_, rfl, _⟩
    · exact h.known c' n' call' hcall'
    · exact h.known c n' old hold
  · intro c' call' hget' hnone
    rw [hcalls] at hget'
    by_cases hc : c' = c
    · subst hc
      rw [List.getElem?_set_self hold.lt] at hget'
      injection hget' with heq
      rw [← heq, hkeeps] at hnone
      cases hnone
    · rw [List.getElem?_set_ne (Ne.symm hc)] at hget'
      exact h.turnedAway c' call' hget' hnone
  · intro c' hc'
    rw [hcalls, List.length_set] at hc'
    have hc : c' ≠ c := fun heq => absurd hold.lt (by omega)
    rw [hmoves c' hc]
    exact h.unborn c' hc'

theorem Orderly.move {m : Move} (h : t.Orderly past) (ht : t.move c m = some t') :
    t'.Orderly (past ++ [.move c m]) := by
  obtain ⟨old, n, call, seat, hget, hkeeps, hmove, rfl⟩ := move_eq_some_iff.1 ht
  have hold : t.Has c n old := ⟨hget, hkeeps⟩
  have hmoved := Call.moved_of_move hmove
  have hfits := h.fits c n old hold
  obtain ⟨hbefore, hbehind⟩ := hmoved.holder? hfits fun hin => (h.holder_iff n c).2 ⟨old, hold, hin⟩
  refine h.turn hold (fun c' hc => movesOf_move_of_ne hc.symm m) h.lobby (Nat.le_refl _) rfl rfl
    (hmoved.worker?.trans hkeeps) (fun c' hc => ?_) ?_ (fun c' call' hc hcall' => ?_) (hmoved.fits hfits) ?_
  · have hleft : seat.holder? ≠ some c' := by
      rw [hbehind]
      split
      · intro heq
        injection heq with heq
        exact hc heq.symm
      · exact nofun
    have hright : (t.seats n).holder? ≠ some c' := by
      rcases hbefore with hnone | hsome
      · rw [hnone]
        exact nofun
      · rw [hsome]
        intro heq
        injection heq with heq
        exact hc heq.symm
    exact iff_of_false hleft hright
  · rw [hbehind]
    split
    · rename_i hin
      exact iff_of_true rfl hin
    · rename_i hout
      exact iff_of_false nofun hout
  · exact (h.fits c' n call' hcall').of_outside (h.outside hcall' hbefore hc) hmoved.cell?
  · rw [movesOf_concat, movesOf_move_self]
    exact hmoved.told hfits (h.told c n old hold)

theorem Orderly.report (h : t.Orderly past) (ht : t.report c = some t') : t'.Orderly (past ++ [.report c]) := by
  obtain ⟨old, n, r, b, hget, hkeeps, hstage, rfl⟩ := report_eq_some_iff.1 ht
  have hold : t.Has c n old := ⟨hget, hkeeps⟩
  have hfits := h.fits c n old hold
  have hseats : t.seats = (t.setSeat n (t.seats n)).seats := by
    funext n'
    by_cases hn : n' = n
    · subst hn
      rw [seats_setSeat_self]
    · rw [seats_setSeat_of_ne hn]
  have hlobby : (t.lobby.afterCall n r).Orderly ∧ (t.lobby.afterCall n r).workers = t.lobby.workers := by
    unfold Lobby.afterCall
    split
    · exact ⟨h.lobby.forget n _, rfl⟩
    · exact ⟨h.lobby, rfl⟩
  refine h.turn hold (fun _ _ => rfl) hlobby.1 (Nat.le_of_eq hlobby.2.symm) hseats rfl hkeeps (fun _ _ => Iff.rfl) ?_
    (fun c' call' _ hcall' => h.fits c' n call' hcall') (hfits.done hstage) ?_
  · rw [h.holder_iff]
    refine iff_of_false ?_ nofun
    rintro ⟨call', hcall', hin⟩
    have heq := (hcall'.unique hold).2
    rw [heq, hstage] at hin
    cases hin
  · rw [movesOf_concat, show movesOf c [Event.report c] = [] from rfl, List.append_nil]
    exact (h.told c n old hold).done hstage

/-- The worker of a seat changes, and every call fits it as before. -/
theorem Orderly.reseat {seat : Seat} (h : t.Orderly past) (x : Event) (hx : ∀ c, movesOf c [x] = [])
    (hlobby : t'.lobby = t.lobby) (hcalls : t'.calls = t.calls) (hseats : t'.seats = (t.setSeat n seat).seats)
    (hholder : seat.holder? = (t.seats n).holder?) (hfit : ∀ c call, t.Has c n call → call.Fits seat.worker) :
    t'.Orderly (past ++ [x]) := by
  have hmoves : ∀ c, movesOf c (past ++ [x]) = movesOf c past := by
    intro c
    rw [movesOf_concat, hx, List.append_nil]
  have hhas : ∀ {c n call}, t'.Has c n call ↔ t.Has c n call := by
    intro c n call
    exact ⟨fun hcall => ⟨hcalls ▸ hcall.get, hcall.keeps⟩, fun hcall => ⟨hcalls ▸ hcall.get, hcall.keeps⟩⟩
  refine ⟨hlobby ▸ h.lobby, fun n' c => ?_, fun c n' call hcall => ?_, fun c n' call hcall => ?_,
    fun c n' call hcall => ?_, ?_, fun c hc => ?_⟩
  · have hsame : (t'.seats n').holder? = (t.seats n').holder? := by
      rw [hseats]
      by_cases hn : n' = n
      · subst hn
        rw [seats_setSeat_self, hholder]
      · rw [seats_setSeat_of_ne hn]
    rw [hsame, h.holder_iff]
    constructor
    · rintro ⟨call, hcall, hin⟩
      exact ⟨call, hhas.2 hcall, hin⟩
    · rintro ⟨call, hcall, hin⟩
      exact ⟨call, hhas.1 hcall, hin⟩
  · rw [hseats]
    by_cases hn : n' = n
    · subst hn
      rw [seats_setSeat_self]
      exact hfit c call (hhas.1 hcall)
    · rw [seats_setSeat_of_ne hn]
      exact h.fits c n' call (hhas.1 hcall)
  · rw [hmoves]
    exact h.told c n' call (hhas.1 hcall)
  · rw [hlobby]
    exact h.known c n' call (hhas.1 hcall)
  · rw [hcalls]
    exact h.turnedAway
  · rw [hmoves]
    exact h.unborn c (hcalls ▸ hc)

theorem Orderly.close (h : t.Orderly past) (ht : t.close n = some t') : t'.Orderly (past ++ [.close n]) := by
  obtain ⟨_, hfree, rfl⟩ := close_eq_some_iff.1 ht
  refine h.reseat (.close n) (fun _ => rfl) rfl rfl rfl hfree.symm fun c call hcall => ?_
  have hout : call.stage.inSession = false := by
    refine Bool.eq_false_iff.2 fun hin => ?_
    rw [(h.holder_iff n c).2 ⟨call, hcall, hin⟩] at hfree
    cases hfree
  refine (h.fits c n call hcall).of_outside hout ?_
  rw [Worker.cell?_shutdown]

theorem Orderly.plays (h : t.Orderly past) (p : Process) : (t.plays n p).Orderly (past ++ [.plays n p]) :=
  h.reseat (.plays n p) (fun _ => rfl) rfl rfl rfl rfl fun c call hcall => (h.fits c n call hcall).of_cell rfl

theorem Orderly.step {x : Event} (h : t.Orderly past) (ht : t.step x = some t') : t'.Orderly (past ++ [x]) := by
  cases x with
  | lobby y => exact h.lobbyStep ht
  | call job =>
    cases ht
    exact h.receive job
  | move c m => exact h.move ht
  | report c => exact h.report ht
  | close n => exact h.close ht
  | plays n p =>
    cases ht
    exact h.plays p

theorem Orderly.run {events : List Event} (h : t.Orderly past) (ht : t.run events = some t') :
    t'.Orderly (past ++ events) := run_induction (fun _ _ _ _ h hx => h.step hx) h ht

theorem orderly_of_run {workers : Nat → Worker} {events : List Event} (h : (opened workers).run events = some t) :
    t.Orderly events := (orderly_opened workers).run h

end Traffic

end ScriptBench
