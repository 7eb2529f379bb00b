import ScriptBench.Proofs.Traffic.Floor

/-! What the engine does is traffic. Its callers, its starts and its calls take the steps that any others take, in one
order of many. -/
namespace ScriptBench

/-- What a caller has been told. -/
def Guest.answer? : Guest → Option (Except EngineError Nat)
  | .admitted w => some (.ok w)
  | .waiting _ => none
  | .served _ result => some result

namespace Lobby

/-- An engine as a lobby. The start under way, if there is one, waits for the process that was started. -/
structure Shows (d : Lobby) (e : Engine) : Prop where
  orderly : d.Orderly
  supervisor : d.supervisor = e.supervisor
  workers : d.workers = e.workers.length
  launching : e.starting.isSome → ∃ k, d.current? = some k ∧ d.starts[k]? = some .launching
  idle : e.starting = none → d.current? = none

variable {d d' : Lobby} {e e' : Engine} {k : Nat}

theorem shows_initial (config : EngineConfig) (machine : Machine) : initial.Shows (.initial config machine) :=
  ⟨orderly_initial, rfl, rfl, nofun, fun _ => rfl⟩

/-! Callers and starts -/

/-- Whether a step is one of a caller or a start, and not a crash report or a shutdown. -/
def Event.IsOfCaller : Event → Prop
  | .arrive | .installed _ | .launched _ | .failed _ _ | .serve _ => True
  | .forget _ _ | .take => False

/-- Callers and starts make steps, one behind the other. -/
inductive Goes : Lobby → Lobby → Prop where
  | refl (d : Lobby) : Goes d d
  | step {d d₁ d' : Lobby} {x : Event} (step : d.step x = some d₁) (caller : x.IsOfCaller) (more : Goes d₁ d') :
    Goes d d'

theorem Goes.trans {d'' : Lobby} (h : d.Goes d') (h' : d'.Goes d'') : d.Goes d'' := by
  induction h with
  | refl => exact h'
  | step hstep hx _ ih => exact .step hstep hx (ih h')

theorem Goes.orderly (hgoes : d.Goes d') (h : d.Orderly) : d'.Orderly := by
  induction hgoes with
  | refl => exact h
  | step hstep _ _ ih => exact ih (h.step hstep)

/-- Who has no answer waits for the start under way. -/
def Attends (d : Lobby) (g : Guest) : Prop := g.answer? = none → ∃ k, g = .waiting k ∧ d.current? = some k

/-- A start that is under way fails, and the caller who set it off is told. -/
theorem exists_goes_of_fail {f : StartFault} (hk : d.UnderWay k) {front : List Guest}
    (hguests : d.guests = front ++ [.waiting k]) :
    ∃ d', d.Goes d' ∧ d'.supervisor = d.supervisor.finish (.error (.initialization f)) ∧
      d'.current? = none ∧ d'.workers = d.workers ∧ d'.guests = front ++ [.served k (.error (.initialization f))] := by
  have hlt : k < d.starts.length := by
    rcases hk with hk | hk <;> exact (List.getElem?_eq_some_iff.1 hk).1
  have hfailed : d.step (.failed k f) = some (d.finish k (.error (.initialization f))) :=
    failed_eq_some_iff.2 ⟨hk, rfl⟩
  have hguest : (d.finish k (.error (.initialization f))).guests[front.length]? = some (.waiting k) := by
    change d.guests[front.length]? = _
    rw [hguests]
    exact List.getElem?_concat_length
  have hserve : (d.finish k (.error (.initialization f))).step (.serve front.length) = some _ :=
    serve_eq_some_iff.2 ⟨k, _, hguest, List.getElem?_set_self hlt, rfl⟩
  refine ⟨_, .step hfailed trivial (.step hserve trivial (.refl _)), rfl, rfl, rfl, ?_⟩
  change d.guests.set front.length _ = _
  rw [hguests, List.set_append_right _ _ (Nat.le_refl _), Nat.sub_self]
  rfl

/-- What a start does that a caller has just set off. -/
theorem exists_goes_of_launch {answer? : Option (Except EngineError Nat)} (hlaunch : e.launch = (answer?, e'))
    (h : d.Orderly) (hk : d.starts[k]? = some .installing) {front : List Guest}
    (hguests : d.guests = front ++ [.waiting k]) (hsupervisor : d.supervisor = e.supervisor)
    (hworkers : d.workers = e.workers.length) :
    ∃ d' g, d.Goes d' ∧ d'.Shows e' ∧ d'.guests = front ++ [g] ∧ g.answer? = answer? ∧ d'.Attends g := by
  unfold Engine.launch at hlaunch
  split at hlaunch
  · rename_i f m _
    cases hlaunch
    obtain ⟨d', hgoes, hfinish, hcurrent, hsame, hguest⟩ :=
      @exists_goes_of_fail d k (.driverNotWritten e.config.directory f) (.inl hk) front hguests
    refine ⟨d', _, hgoes, ⟨hgoes.orderly h, ?_, hsame.trans hworkers, nofun, fun _ => hcurrent⟩, hguest, rfl, nofun⟩
    rw [hfinish, hsupervisor]
  · rename_i m _
    have hinstalled : d.step (.installed k) = some _ := installed_eq_some_iff.2 ⟨hk, rfl⟩
    have hlt : k < d.starts.length := (List.getElem?_eq_some_iff.1 hk).1
    have hlaunching : (d.starts.set k .launching)[k]? = some .launching := List.getElem?_set_self hlt
    have horderly := h.installed hinstalled
    have hcurrent : d.current? = some k := (h.underWay_iff k).1 (.inl hk)
    dsimp only at hlaunch
    split at hlaunch
    · rename_i f m' _
      cases hlaunch
      obtain ⟨d', hgoes, hfinish, hcurrent, hsame, hguest⟩ :=
        @exists_goes_of_fail { d with supervisor := d.supervisor.installed, starts := d.starts.set k .launching } k
          (.notSpawned e.config.python f) (.inr hlaunching) front hguests
      refine ⟨d', _, .step hinstalled trivial hgoes,
        ⟨hgoes.orderly horderly, ?_, hsame.trans hworkers, nofun, fun _ => hcurrent⟩, hguest, rfl, nofun⟩
      rw [hfinish, hsupervisor]
      rfl
    · rename_i process m' _
      cases hlaunch
      refine ⟨_, _, .step hinstalled trivial (.refl _),
        ⟨horderly, ?_, hworkers, fun _ => ⟨k, hcurrent, hlaunching⟩, nofun⟩, hguests, rfl,
        fun _ => ⟨k, rfl, hcurrent⟩⟩
      change d.supervisor.installed = _
      rw [hsupervisor]

/-- A caller of the engine arrives at the lobby. A start that is under way stays the one that callers wait for. -/
theorem Shows.exists_goes_of_arrive (h : d.Shows e) {answer? : Option (Except EngineError Nat)}
    (harrive : e.arrive = (answer?, e')) :
    ∃ d' g, d.Goes d' ∧ d'.Shows e' ∧ d'.guests = d.guests ++ [g] ∧ g.answer? = answer? ∧ d'.Attends g ∧
      ∀ k, d.current? = some k → d'.current? = some k := by
  have hd : e.supervisor = d.supervisor := h.supervisor.symm
  unfold Engine.arrive at harrive
  cases hlive : d.supervisor.live with
  | some w =>
    rw [hd, Supervisor.request_of_live hlive] at harrive
    cases harrive
    have hadmitted : d.step .arrive = some _ := arrive_eq_some_iff.2 (.inl ⟨w, hlive, rfl⟩)
    exact ⟨_, _, .step hadmitted trivial (.refl _),
      ⟨h.orderly.step hadmitted, rfl, h.workers, h.launching, h.idle⟩, rfl, rfl, nofun, fun _ hk => hk⟩
  | none =>
    cases hflight : d.supervisor.inFlight with
    | true =>
      rw [hd, Supervisor.request_of_inFlight hlive hflight] at harrive
      cases harrive
      have hsome : d.current?.isSome := by rw [← h.orderly.inFlight_eq, hflight]
      obtain ⟨k, hk⟩ := Option.isSome_iff_exists.1 hsome
      have hjoined : d.step .arrive = some _ := arrive_eq_some_iff.2 (.inr (.inl ⟨hlive, hflight, k, hk, rfl⟩))
      exact ⟨_, _, .step hjoined trivial (.refl _),
        ⟨h.orderly.step hjoined, rfl, h.workers, h.launching, h.idle⟩, rfl, rfl, fun _ => ⟨k, rfl, hk⟩,
        fun _ hk => hk⟩
    | false =>
      rw [hd, Supervisor.request_of_idle hlive hflight] at harrive
      dsimp only at harrive
      have hstarted : d.step .arrive = some _ := arrive_eq_some_iff.2 (.inr (.inr ⟨hlive, hflight, rfl⟩))
      obtain ⟨d', g, hgoes, hshows, hguests, hanswer, hattends⟩ :=
        exists_goes_of_launch harrive (h.orderly.step hstarted) List.getElem?_concat_length rfl rfl h.workers
      refine ⟨d', g, .step hstarted trivial hgoes, hshows, hguests, hanswer, hattends, fun k hk => ?_⟩
      have hnone := h.orderly.inFlight_eq
      rw [hflight, hk] at hnone
      cases hnone

/-- Callers of the engine who come one behind the other. All who are not answered wait for the same start. -/
theorem Shows.exists_goes_of_arriveMany (h : d.Shows e) {count : Nat} {answers : List (Option (Except EngineError Nat))}
    (harrive : e.arriveMany count = (answers, e')) :
    ∃ d' gs, d.Goes d' ∧ d'.Shows e' ∧ d'.guests = d.guests ++ gs ∧ gs.map Guest.answer? = answers ∧
      (∀ g ∈ gs, d'.Attends g) ∧ ∀ k, d.current? = some k → d'.current? = some k := by
  induction count generalizing d e answers with
  | zero =>
    cases harrive
    exact ⟨d, [], .refl d, h, (List.append_nil _).symm, rfl, nofun, fun _ hk => hk⟩
  | succ count ih =>
    unfold Engine.arriveMany at harrive
    rcases hfirst : e.arrive with ⟨answer?, e₁⟩
    rcases hmore : Engine.arriveMany count e₁ with ⟨more, e₂⟩
    rw [hfirst] at harrive
    dsimp only at harrive
    rw [hmore] at harrive
    cases harrive
    obtain ⟨d₁, g, hgoes, hshows, hguests, hanswer, hattends, hkeep⟩ := h.exists_goes_of_arrive hfirst
    obtain ⟨d₂, gs, hgoes', hshows', hguests', hanswers, hattends', hkeep'⟩ := ih hshows hmore
    refine ⟨d₂, g :: gs, hgoes.trans hgoes', hshows', ?_, ?_, ?_,
      fun k hk => hkeep' k (hkeep k hk)⟩
    · rw [hguests', hguests, List.append_assoc]
      rfl
    · rw [List.map_cons, hanswer, hanswers]
    · rintro g' hg' hnone
      obtain rfl | hg' := List.mem_cons.1 hg'
      · obtain ⟨k, hg, hk⟩ := hattends hnone
        exact ⟨k, hg, hkeep' k hk⟩
      · exact hattends' g' hg' hnone

/-- The engine waits for the interpreter of the start that is under way. -/
theorem Shows.exists_goes_of_complete (h : d.Shows e) (hstarting : e.starting.isSome) {result : Except EngineError Nat}
    (hcomplete : e.complete = (result, e')) :
    ∃ d' k, d.Goes d' ∧ d.current? = some k ∧ d'.Shows e' ∧ d'.guests = d.guests ∧
      d'.starts[k]? = some (.ended result) := by
  obtain ⟨k, hcurrent, hk⟩ := h.launching hstarting
  have hlt : k < d.starts.length := (List.getElem?_eq_some_iff.1 hk).1
  obtain ⟨p, hp⟩ := Option.isSome_iff_exists.1 hstarting
  unfold Engine.complete at hcomplete
  rw [hp] at hcomplete
  dsimp only at hcomplete
  split at hcomplete
  · rename_i f _
    cases hcomplete
    have hfailed : d.step (.failed k f) = some _ := failed_eq_some_iff.2 ⟨.inr hk, rfl⟩
    refine ⟨_, k, .step hfailed trivial (.refl _), hcurrent,
      ⟨h.orderly.failed hfailed, ?_, h.workers, nofun, fun _ => rfl⟩, rfl,
      List.getElem?_set_self hlt⟩
    exact congrArg (Supervisor.finish · (.error (.initialization f))) h.supervisor
  · rename_i version p' _
    cases hcomplete
    have hlaunched : d.step (.launched k) = some _ := launched_eq_some_iff.2 ⟨hk, rfl⟩
    refine ⟨_, k, .step hlaunched trivial (.refl _), hcurrent,
      ⟨h.orderly.launched hlaunched, ?_, ?_, nofun, fun _ => rfl⟩,
      rfl, ?_⟩
    · change d.supervisor.finish (.ok d.workers) = e.supervisor.finish (.ok e.workers.length)
      rw [h.supervisor, h.workers]
    · change d.workers + 1 = (e.workers ++ [_]).length
      rw [h.workers, List.length_append, List.length_singleton]
    · rw [← h.workers]
      exact List.getElem?_set_self hlt

/-- All who wait for a start that has ended are told. -/
theorem exists_goes_of_ended {result : Except EngineError Nat} (hk : d.starts[k]? = some (.ended result))
    {front gs : List Guest} (hguests : d.guests = front ++ gs)
    (hgs : ∀ g ∈ gs, g.answer? = none → g = .waiting k) :
    ∃ told, d.Goes { d with guests := front ++ told } ∧
      told.map Guest.answer? = gs.map fun g => some (g.answer?.getD result) := by
  induction gs generalizing d front with
  | nil =>
    refine ⟨[], ?_, rfl⟩
    rw [← hguests]
    exact .refl d
  | cons g gs ih =>
    have hlater : ∀ g' ∈ gs, g'.answer? = none → g' = .waiting k := fun g' hg' => hgs g' (List.mem_cons_of_mem g hg')
    cases hanswer : g.answer? with
    | some r =>
      have hguests' : d.guests = (front ++ [g]) ++ gs := by
        rw [hguests, List.append_assoc]
        rfl
      obtain ⟨told, hgoes, htold⟩ := ih hk hguests' hlater
      rw [List.append_assoc] at hgoes
      refine ⟨g :: told, hgoes, ?_⟩
      rw [List.map_cons, List.map_cons, htold, hanswer]
      rfl
    | none =>
      have hg : g = .waiting k := hgs g (by simp) hanswer
      have hat : d.guests[front.length]? = some (.waiting k) := by
        rw [hguests, hg, List.getElem?_append_right (Nat.le_refl _), Nat.sub_self]
        rfl
      have hserve : d.step (.serve front.length) = some _ := serve_eq_some_iff.2 ⟨k, result, hat, hk, rfl⟩
      have hset : d.guests.set front.length (.served k result) = (front ++ [.served k result]) ++ gs := by
        rw [hguests, List.set_append_right _ _ (Nat.le_refl _), Nat.sub_self, List.append_assoc]
        rfl
      obtain ⟨told, hgoes, htold⟩ :=
        ih (d := { d with guests := d.guests.set front.length (.served k result) }) hk hset hlater
      rw [List.append_assoc] at hgoes
      refine ⟨.served k result :: told, .step hserve trivial hgoes, ?_⟩
      rw [List.map_cons, List.map_cons, htold, hanswer]
      rfl

/-- Callers of the engine who come together are callers at the lobby, and each is told what the engine answers. -/
theorem Shows.exists_goes_of_acquireMany (h : d.Shows e) {count : Nat} {answers : List (Except EngineError Nat)}
    (hacquire : e.acquireMany count = (answers, e')) :
    ∃ d' gs, d.Goes d' ∧ d'.Shows e' ∧ d'.guests = d.guests ++ gs ∧ gs.map Guest.answer? = answers.map some := by
  unfold Engine.acquireMany at hacquire
  rcases harrive : Engine.arriveMany count e with ⟨answers?, e₁⟩
  rw [harrive] at hacquire
  dsimp only at hacquire
  obtain ⟨d₁, gs, hgoes, hshows, hguests, hanswers, hattends, _⟩ := h.exists_goes_of_arriveMany harrive
  split at hacquire
  · rename_i hany
    rcases hcomplete : e₁.complete with ⟨result, e₂⟩
    rw [hcomplete] at hacquire
    cases hacquire
    -- somebody waits, so a start is under way
    have hstarting : e₁.starting.isSome := by
      cases hnone : e₁.starting with
      | some p => rfl
      | none =>
        obtain ⟨answer?, hmem, hanswer⟩ := List.any_eq_true.1 hany
        rw [← hanswers] at hmem
        obtain ⟨g, hg, rfl⟩ := List.mem_map.1 hmem
        obtain ⟨k, _, hk⟩ := hattends g hg (Option.isNone_iff_eq_none.1 hanswer)
        rw [hshows.idle hnone] at hk
        cases hk
    obtain ⟨d₂, k, hgoes', hcurrent, hshows', hguests', hk⟩ := hshows.exists_goes_of_complete hstarting hcomplete
    have hwait : ∀ g ∈ gs, g.answer? = none → g = .waiting k := by
      intro g hg hnone
      obtain ⟨j, hgj, hj⟩ := hattends g hg hnone
      rw [hcurrent] at hj
      cases hj
      exact hgj
    obtain ⟨told, hgoes'', htold⟩ := exists_goes_of_ended hk (hguests'.trans hguests) hwait
    refine ⟨_, told, hgoes.trans (hgoes'.trans hgoes''), ?_, rfl, ?_⟩
    · exact ⟨hgoes''.orderly hshows'.orderly, hshows'.supervisor, hshows'.workers, hshows'.launching, hshows'.idle⟩
    · rw [htold, ← hanswers, List.map_map, List.map_map]
      rfl
  · rename_i hany
    cases hacquire
    refine ⟨d₁, gs, hgoes, hshows, hguests, ?_⟩
    -- everybody is answered
    rw [hanswers]
    have hsome : ∀ answer? ∈ answers?, answer? ≠ none := by
      rintro answer? hmem rfl
      exact hany (List.any_eq_true.2 ⟨none, hmem, rfl⟩)
    clear harrive hanswers hany
    induction answers? with
    | nil => rfl
    | cons answer? more ih =>
      cases answer? with
      | none => exact absurd rfl (hsome none (by simp))
      | some answer =>
        exact congrArg (some answer :: ·) (ih fun a ha => hsome a (List.mem_cons_of_mem _ ha))

/-! Crash reports and shutdowns -/

theorem Shows.forget (h : d.Shows e) (n : Nat) (reason : EngineError) : (d.forget n reason).Shows (e.forget n reason) :=
  ⟨h.orderly.forget n reason, congrArg (·.forget n reason) h.supervisor, h.workers, h.launching, h.idle⟩

/-- A worker that has served a call takes its old place, and is forgotten if the call crashed. -/
theorem Shows.afterCall (h : d.Shows e) (n : Nat) (w : Worker) (result : Except EngineError Reply) :
    (d.afterCall n result).Shows ((e.setWorker n w).afterCall n result) := by
  have hset : d.Shows (e.setWorker n w) :=
    ⟨h.orderly, h.supervisor, h.workers.trans List.length_set.symm, h.launching, h.idle⟩
  cases result with
  | ok reply => exact hset
  | error f =>
    cases f with
    | crashed x => exact hset.forget n (.crashed x)
    | notReady | rejected | initialization => exact hset

theorem Shows.take (h : d.Shows e) : d.take.Shows e.shutdown := by
  have hshutdown : e.shutdown.supervisor = e.supervisor.take.2 ∧ e.shutdown.workers.length = e.workers.length ∧
      e.shutdown.starting = e.starting := by
    unfold Engine.shutdown Supervisor.take
    cases e.supervisor.live with
    | none => exact ⟨rfl, rfl, rfl⟩
    | some n =>
      dsimp only
      split
      · exact ⟨rfl, List.length_set, rfl⟩
      · exact ⟨rfl, rfl, rfl⟩
  obtain ⟨hsupervisor, hlength, hstarting⟩ := hshutdown
  refine ⟨h.orderly.take, ?_, h.workers.trans hlength.symm, ?_, ?_⟩
  · rw [hsupervisor, ← h.supervisor]
    rfl
  · rw [hstarting]
    exact h.launching
  · rw [hstarting]
    exact h.idle

end Lobby

namespace Traffic

/-! Calls -/

namespace Call

/-- Makes moves one behind the other. -/
def moves (c : Nat) (p : Call × Seat) (ms : List Move) : Option (Call × Seat) :=
  ms.foldlM (fun p m => p.1.move c p.2 m) p

theorem moves_append_eq_some_iff {c : Nat} {p p'' : Call × Seat} {first later : List Move} :
    moves c p (first ++ later) = some p'' ↔ ∃ p', moves c p first = some p' ∧ moves c p' later = some p'' := by
  unfold moves
  rw [List.foldlM_append]
  exact Option.bind_eq_some_iff

/-- A move can be made if all that it needs is there. -/
theorem Moved.move {c : Nat} {call call' : Call} {seat seat' : Seat} {m : Move}
    (h : Moved c call seat m call' seat') : call.move c seat m = some (call', seat') := by
  obtain ⟨job, n?, stage, dog⟩ := call
  cases h with
  | enter hstage hfree =>
    cases hstage
    exact if_pos hfree
  | sent id w hstage hsend =>
    cases hstage
    unfold Call.move
    dsimp only
    rw [hsend]
  | unsent id e w hstage hsend =>
    cases hstage
    unfold Call.move
    dsimp only
    rw [hsend]
  | heard id r w hstage hlisten =>
    cases hstage
    unfold Call.move
    dsimp only
    rw [hlisten]
  | silent id w hstage hlisten =>
    cases hstage
    unfold Call.move
    dsimp only
    rw [hlisten]
  | settle r hstage hover =>
    cases hstage
    exact if_neg (Bool.eq_false_iff.1 hover)
  | mark harmed | strike harmed =>
    cases harmed
    cases stage <;> rfl
  | dismiss r hstage harmed =>
    cases hstage
    exact if_pos harmed
  | begin hstage | arm id hstage | stop r hstage | judge r hstage | leave r b hstage =>
    cases hstage
    rfl

theorem moves_cons {c : Nat} {call call' : Call} {seat seat' : Seat} {m : Move} {ms : List Move} {p : Call × Seat}
    (h : Moved c call seat m call' seat') (hmore : moves c (call', seat') ms = some p) :
    moves c (call, seat) (m :: ms) = some p := by
  unfold moves
  rw [List.foldlM_cons, h.move]
  exact hmore

variable {c : Nat} {job : Job} {n? : Option Nat} {w w' : Worker} {dog : Watchdog} {result : Except EngineError Reply}

/-- A call that has its result leaves the session. If its watchdog still waits, it is called off. -/
theorem exists_moves_of_answered (hdog : dog ≠ .firing) :
    ∃ ms dog', moves c (⟨job, n?, .answered result, dog⟩, ⟨w, some c⟩) ms =
      some (⟨job, n?, .left result w.interrupted, dog'⟩, ⟨w, none⟩) := by
  cases dog with
  | armed => exact ⟨[.stop, .dismiss, .settle, .judge, .leave], _, rfl⟩
  | firing => exact absurd rfl hdog
  | absent | fired | calledOff => exact ⟨[.stop, .settle, .judge, .leave], _, rfl⟩

/-- A call that has written its request gets the answer that the worker gives, for which the watchdog may have to
fire. -/
theorem exists_moves_of_await {id : Nat} {armed : Bool} (hawait : w.await armed id = some (result, w'))
    (hdog : dog = if armed then .armed else .absent) :
    ∃ ms dog', dog' ≠ .firing ∧ moves c (⟨job, n?, .written id, dog⟩, ⟨w, some c⟩) ms =
      some (⟨job, n?, .answered result, dog'⟩, ⟨w', some c⟩) := by
  unfold Worker.await at hawait
  split at hawait
  · rename_i a w₁ hlisten
    cases hawait
    refine ⟨[.listen], dog, ?_, moves_cons (.heard id result w' rfl hlisten) rfl⟩
    rw [hdog]
    split <;> exact nofun
  · rename_i w₁ hsilence
    split at hawait
    · rename_i harmed
      rw [if_pos harmed] at hdog
      split at hawait
      · rename_i a w₂ hlisten
        cases hawait
        rw [← Worker.strike_mark] at hlisten
        refine ⟨[.listen, .mark, .strike, .listen], .fired, nofun, ?_⟩
        refine moves_cons (.silent id w₁ rfl hsilence) (moves_cons (.mark hdog) (moves_cons (.strike rfl) ?_))
        exact moves_cons (.heard id result w' rfl hlisten) rfl
      · cases hawait
    · cases hawait

/-- What a worker does for a call is what the call and its watchdog do at its seat. -/
theorem exists_moves_of_exec
    (hexec : w.exec job.options.timeout?.isSome job.source job.library? job.options.module = some (result, w')) :
    ∃ ms dog, moves c (⟨job, n?, .queued, .absent⟩, ⟨w, none⟩) ms =
      some (⟨job, n?, .left result w'.interrupted, dog⟩, ⟨w', none⟩) := by
  unfold Worker.exec at hexec
  rcases hbegin : w.begin with ⟨id, w₁⟩
  rw [hbegin] at hexec
  dsimp only at hexec
  let dog := newWatchdog ⟨job, n?, .begun id, .absent⟩ w₁
  -- the call comes as far as its request, whatever becomes of it
  have hfirst : ∀ {ms : List Move} {p : Call × Seat},
      moves c (⟨job, n?, .armed id, dog⟩, ⟨w₁, some c⟩) ms = some p →
      moves c (⟨job, n?, .queued, .absent⟩, ⟨w, none⟩) (.enter :: .begin :: .arm :: ms) = some p := by
    intro ms p hmore
    refine moves_cons (.enter rfl rfl) (moves_cons (.begin rfl) ?_)
    dsimp only
    rw [hbegin]
    exact moves_cons (.arm id rfl) hmore
  split at hexec
  · rename_i e w₂ hsend
    cases hexec
    have hdog : dog ≠ .firing := by
      change (if _ then Watchdog.armed else Watchdog.absent) ≠ _
      split <;> exact nofun
    obtain ⟨ms, dog', hmoves⟩ := @exists_moves_of_answered c job n? w' dog (.error e) hdog
    exact ⟨_, dog', hfirst (moves_cons (.unsent id e w' rfl hsend) hmoves)⟩
  · rename_i w₂ hsend
    have hdog : dog = if job.options.timeout?.isSome && w₂.cell?.isSome then .armed else .absent := by
      rw [Worker.cell?_of_send hsend]
      rfl
    obtain ⟨ms, dog', hne, hmoves⟩ := @exists_moves_of_await c job n? w₂ w' dog result id _ hexec hdog
    obtain ⟨ms', dog'', hmoves'⟩ := @exists_moves_of_answered c job n? w' dog' result hne
    have hboth := moves_append_eq_some_iff.2 ⟨_, hmoves, hmoves'⟩
    exact ⟨_, dog'', hfirst (moves_cons (.sent id w₂ rfl hsend) hboth)⟩

end Call

variable {t t' : Traffic} {e e' : Engine} {n : Nat}

/-- An engine between two calls, as traffic. Nobody holds the session of a worker. -/
structure Shows (t : Traffic) (e : Engine) : Prop where
  lobby : t.lobby.Shows e
  seats : ∀ n w, e.worker? n = some w → t.seats n = ⟨w, none⟩

theorem shows_opened (workers : Nat → Worker) (config : EngineConfig) (machine : Machine) :
    (opened workers).Shows (.initial config machine) := ⟨Lobby.shows_initial config machine, fun _ _ hw => nomatch hw⟩

/-- What callers and starts do at the lobby are steps of the traffic. -/
theorem exists_run_of_goes {d : Lobby} (hgoes : t.lobby.Goes d) :
    ∃ events, t.run events = some { t with lobby := d } := by
  generalize hd : t.lobby = d₀ at hgoes
  induction hgoes generalizing t with
  | refl d =>
    subst hd
    exact ⟨[], rfl⟩
  | @step d d₁ d' x hstep hx _ ih =>
    subst hd
    have hfirst : t.step (.lobby x) = some { t with lobby := d₁ } := by
      change t.lobbyStep x = _
      cases x with
      | forget | take => exact hx.elim
      | arrive | installed | launched | failed | serve =>
        unfold lobbyStep
        dsimp only
        rw [hstep]
        rfl
    obtain ⟨events, hrun⟩ := ih (t := { t with lobby := d₁ }) rfl
    exact ⟨.lobby x :: events, run_cons_eq_some_iff.2 ⟨_, hfirst, hrun⟩⟩

/-- Callers of the engine are callers in the traffic, if the seats are those of the workers that there will be. -/
theorem Shows.exists_run_of_acquireMany (h : t.Shows e) {count : Nat} {answers : List (Except EngineError Nat)}
    (hacquire : e.acquireMany count = (answers, e')) (hseats : ∀ n w, e'.worker? n = some w → t.seats n = ⟨w, none⟩) :
    ∃ events t' gs, t.run events = some t' ∧ t'.Shows e' ∧ t'.lobby.guests = t.lobby.guests ++ gs ∧
      gs.map Guest.answer? = answers.map some := by
  obtain ⟨d, gs, hgoes, hshows, hguests, hanswers⟩ := h.lobby.exists_goes_of_acquireMany hacquire
  obtain ⟨events, hrun⟩ := exists_run_of_goes hgoes
  exact ⟨events, { t with lobby := d }, gs, hrun, ⟨hshows, hseats⟩, hguests, hanswers⟩

/-- A worker that takes its place again does so at its seat. -/
theorem Shows.seats_setWorker (h : t.Shows e) {old : Worker} (hold : e.worker? n = some old) (w : Worker) (m : Nat)
    (w' : Worker) (hw' : (e.setWorker n w).worker? m = some w') : (t.setSeat n ⟨w, none⟩).seats m = ⟨w', none⟩ := by
  unfold Engine.setWorker Engine.worker? at hw'
  dsimp only at hw'
  by_cases hm : m = n
  · subst hm
    rw [List.getElem?_set_self (List.getElem?_eq_some_iff.1 hold).1] at hw'
    cases hw'
    exact seats_setSeat_self t m _
  · rw [List.getElem?_set_ne (Ne.symm hm)] at hw'
    exact (seats_setSeat_of_ne hm t _).trans (h.seats m w' hw')

/-- Of the workers, a shutdown ends the live one. -/
theorem worker?_shutdown {w : Worker} (hlive : e.supervisor.live = some n) (hw : e.worker? n = some w) (m : Nat) :
    e.shutdown.worker? m = (e.setWorker n w.shutdown).worker? m := by
  have htake : e.supervisor.take = (some n, e.supervisor.take.2) := Prod.ext hlive rfl
  have hw' : Engine.worker? { e with supervisor := e.supervisor.take.2 } n = some w := hw
  unfold Engine.shutdown
  rw [htake]
  dsimp only
  rw [hw']
  rfl

/-- A shutdown of the engine takes the live worker away and ends it. -/
theorem Shows.exists_run_of_shutdown (h : t.Shows e) : ∃ events t', t.run events = some t' ∧ t'.Shows e.shutdown := by
  have htake : t.step (.lobby .take) = some _ := rfl
  have hlobby := h.lobby.take
  cases hlive : e.supervisor.live with
  | none =>
    refine ⟨[.lobby .take], _, run_cons_eq_some_iff.2 ⟨_, htake, run_nil _⟩, hlobby, ?_⟩
    unfold Engine.shutdown Supervisor.take
    rw [hlive]
    exact h.seats
  | some n =>
    have hlive' : t.lobby.supervisor.live = some n := by rw [h.lobby.supervisor, hlive]
    have hlt : n < e.workers.length := h.lobby.workers ▸ h.lobby.orderly.live_lt n hlive'
    have hw : e.worker? n = some e.workers[n] := List.getElem?_eq_getElem hlt
    have hclosing : n ∈ t.closing ++ t.lobby.supervisor.live.toList := by
      rw [hlive']
      exact List.mem_append_right _ (List.mem_singleton.2 rfl)
    have hfree : (t.seats n).holder? = none := by rw [h.seats n _ hw]
    let t₁ : Traffic :=
      { t with lobby := t.lobby.take, closing := t.closing ++ t.lobby.supervisor.live.toList }
    have hclose : t₁.step (.close n) = some _ := close_eq_some_iff.2 ⟨hclosing, hfree, rfl⟩
    refine ⟨[.lobby .take, .close n], _,
      run_cons_eq_some_iff.2 ⟨t₁, htake, run_cons_eq_some_iff.2 ⟨_, hclose, run_nil _⟩⟩, hlobby, fun m w' hw' => ?_⟩
    rw [worker?_shutdown hlive hw] at hw'
    have hseat := h.seats_setWorker hw _ m w' hw'
    rw [← hseat]
    change (if m = n then (⟨(t.seats n).worker.shutdown, none⟩ : Seat) else t.seats m) = _
    rw [h.seats n _ hw]
    rfl

theorem setSeat_setSeat (t : Traffic) (n : Nat) (seat seat' : Seat) :
    (t.setSeat n seat).setSeat n seat' = t.setSeat n seat' := by
  unfold setSeat
  congr 1
  funext m
  dsimp only
  split <;> rfl

/-- The moves of a call at its seat are steps of the traffic. -/
theorem run_moves {c : Nat} {call call' : Call} {seat : Seat} {ms : List Move} (hcall : t.calls[c]? = some call)
    (hn : call.worker? = some n) (hmoves : Call.moves c (call, t.seats n) ms = some (call', seat)) :
    t.run (ms.map (.move c)) = some { t.setSeat n seat with calls := t.calls.set c call' } := by
  induction ms generalizing t call with
  | nil =>
    cases hmoves
    have hseats : t.setSeat n (t.seats n) = t := by
      obtain ⟨lobby, seats, calls, closing⟩ := t
      unfold setSeat
      congr 1
      funext m
      dsimp only
      split
      · rename_i hm
        rw [hm]
      · rfl
    obtain ⟨hlt, hget⟩ := List.getElem?_eq_some_iff.1 hcall
    rw [hseats, ← hget, List.set_getElem_self]
    rfl
  | cons m ms ih =>
    unfold Call.moves at hmoves
    rw [List.foldlM_cons] at hmoves
    obtain ⟨⟨call₁, seat₁⟩, hmove, hmore⟩ := Option.bind_eq_some_iff.1 hmoves
    have hstep : t.step (.move c m) = some _ := move_eq_some_iff.2 ⟨call, n, call₁, seat₁, hcall, hn, hmove, rfl⟩
    have hcall₁ : (t.calls.set c call₁)[c]? = some call₁ :=
      List.getElem?_set_self (List.getElem?_eq_some_iff.1 hcall).1
    have hseat : (t.setSeat n seat₁).seats n = seat₁ := seats_setSeat_self t n seat₁
    have hrun := ih (t := { t.setSeat n seat₁ with calls := t.calls.set c call₁ }) hcall₁
      ((Call.moved_of_move hmove).worker?.trans hn) (by rw [hseat]; exact hmore)
    refine run_cons_eq_some_iff.2 ⟨_, hstep, hrun.trans ?_⟩
    have hseats := congrArg seats (setSeat_setSeat t n seat₁ seat)
    rw [List.set_set]
    exact congrArg (fun seats => some (⟨t.lobby, seats, t.calls.set c call', t.closing⟩ : Traffic)) hseats

/-- A call of the engine is a call of the traffic, with all its moves one behind the other, and its caller gets the same
outcome. -/
theorem Shows.exists_run_of_run (h : t.Shows e) {options : RunOptions} {source : String} {library? : Option String}
    {o : Outcome} (hrun : e.run options source library? = some (o, e')) :
    ∃ events t' call, t.run events = some t' ∧ t'.Shows e' ∧ t'.calls = t.calls ++ [call] ∧
      call.outcome? = some o := by
  let job : Job := ⟨options, source, library?⟩
  obtain ⟨hlive, rfl, rfl⟩ | ⟨n, result, w, ⟨hlive, before, hbefore, hexec⟩, rfl, rfl⟩ := Engine.run_eq_some_iff.1 hrun
  · rw [← h.lobby.supervisor] at hlive
    have hcalls : (t.receive job).calls = t.calls ++ [newCall none job] := by rw [← hlive]; rfl
    exact ⟨[.call job], t.receive job, newCall none job, rfl, ⟨h.lobby, h.seats⟩, hcalls, rfl⟩
  · rw [← h.lobby.supervisor] at hlive
    let c := t.calls.length
    have hcalls : (t.receive job).calls = t.calls ++ [⟨job, some n, .queued, .absent⟩] := by
      unfold receive
      rw [hlive]
      rfl
    have hcall : (t.receive job).calls[c]? = some ⟨job, some n, .queued, .absent⟩ := by
      rw [hcalls]
      exact List.getElem?_concat_length
    obtain ⟨ms, dog, hmoves⟩ := @Call.exists_moves_of_exec c job (some n) before w result hexec
    rw [← h.seats n before hbefore] at hmoves
    have hmoved := run_moves hcall rfl hmoves
    let left : Call := ⟨job, some n, .left result w.interrupted, dog⟩
    let t₁ : Traffic := { (t.receive job).setSeat n ⟨w, none⟩ with calls := t.calls ++ [left] }
    have hset : ∀ old call : Call, (t.calls ++ [old]).set c call = t.calls ++ [call] := by
      intro old call
      rw [List.set_append_right _ _ (Nat.le_refl _), Nat.sub_self]
      rfl
    have hmoved : (t.receive job).run (ms.map (.move c)) = some t₁ := by
      rw [run_moves hcall rfl hmoves, hcalls, hset]
    have hreport : t₁.step (.report c) = some { t₁ with
        lobby := t₁.lobby.afterCall n result
        calls := t.calls ++ [{ left with stage := .done result w.interrupted }] } := by
      rw [← hset left]
      exact report_eq_some_iff.2 ⟨left, n, result, w.interrupted, List.getElem?_concat_length, rfl, rfl, rfl⟩
    have hall : t.run (.call job :: (ms.map (.move c) ++ [.report c])) = some _ :=
      run_cons_eq_some_iff.2 ⟨t.receive job, rfl, run_append_eq_some_iff.2 ⟨t₁, hmoved,
        run_cons_eq_some_iff.2 ⟨_, hreport, run_nil _⟩⟩⟩
    refine ⟨_, _, _, hall, ⟨h.lobby.afterCall n w result, fun m w' hw' => ?_⟩, rfl, rfl⟩
    have hworker : (e.setWorker n w).worker? m = some w' := by
      rw [← hw']
      cases result with
      | ok reply => rfl
      | error f => cases f <;> rfl
    exact h.seats_setWorker hbefore w m w' hworker

end Traffic

end ScriptBench
