import ScriptBench.Proofs.Traffic.Call

/-! What holds of a call at its seat. A watchdog lives only while its call holds the session, and while it does the cell
shows just whether the own watchdog has set it. The moves that a call and its watchdog have made say the same. -/
namespace ScriptBench

namespace Traffic

namespace Stage

variable {s : Stage}

theorem verdict?_of_rank_le (h : s.rank ≤ 7) : s.verdict? = none := by
  cases s with
  | judged r b => simp at h
  | left r b => simp at h
  | done r b => simp at h
  | _ => rfl

theorem inSession_iff : s.inSession = true ↔ 1 ≤ s.rank ∧ s.rank ≤ 8 := by
  unfold inSession
  rw [Bool.and_eq_true, decide_eq_true_iff, decide_eq_true_iff]

theorem inSession_eq_false_iff : s.inSession = false ↔ s.rank = 0 ∨ 9 ≤ s.rank := by
  rw [Bool.eq_false_iff, ne_eq, inSession_iff]
  omega

end Stage

namespace Call

/-- How a call, its watchdog and the cell of its worker fit together. -/
structure Fits (call : Call) (w : Worker) : Prop where
  unarmed : call.stage.rank < 3 → call.watchdog = .absent
  alive : call.watchdog.isAlive = true → 3 ≤ call.stage.rank ∧ call.stage.rank ≤ 6
  timed : call.watchdog ≠ .absent → call.job.options.timeout?.isSome = true ∧ w.cell?.isSome = true
  /-- While the call is between its clearing and its reading, the cell is set just by its own watchdog. -/
  shows : 2 ≤ call.stage.rank → call.stage.rank ≤ 7 → w.interrupted = call.watchdog.hasMarked
  verdict : ∀ b, call.stage.verdict? = some b → b = call.watchdog.hasMarked
  result : ∀ e, call.stage.result? = some (.error e) → e.OfExchange

variable {c : Nat} {call call' : Call} {seat seat' : Seat} {m : Move} {w w' : Worker}

theorem Fits.inSession (h : call.Fits w) (halive : call.watchdog.isAlive = true) :
    call.stage.inSession = true := by
  have hrank := h.alive halive
  rw [Stage.inSession_iff]
  omega

/-- What others do to a worker is nothing to a call that does not hold the session. -/
theorem Fits.of_outside (h : call.Fits w) (hout : call.stage.inSession = false)
    (hcell : w'.cell?.isSome = w.cell?.isSome) : call.Fits w' := by
  rw [Stage.inSession_eq_false_iff] at hout
  refine ⟨h.unarmed, h.alive, fun habsent => ?_, fun hlo hhi => ?_, h.verdict, h.result⟩
  · rw [hcell]
    exact h.timed habsent
  · omega

theorem Fits.of_cell (h : call.Fits w) (hcell : w'.cell? = w.cell?) : call.Fits w' := by
  have hinterrupted : w'.interrupted = w.interrupted := by
    unfold Worker.interrupted
    rw [hcell]
  refine ⟨h.unarmed, h.alive, ?_, ?_, h.verdict, h.result⟩
  · rw [hcell]
    exact h.timed
  · rw [hinterrupted]
    exact h.shows

/-- A new call that waits for the session fits every worker. -/
theorem fits_queued (job : Job) (n : Nat) (w : Worker) : (⟨job, some n, .queued, .absent⟩ : Call).Fits w := by
  refine ⟨fun _ => rfl, fun h => ?_, fun h => absurd rfl h, fun h => ?_, fun _ h => ?_, fun _ h => ?_⟩
  · cases h
  · simp at h
  · cases h
  · cases h

theorem Moved.cell? (h : Moved c call seat m call' seat') :
    seat'.worker.cell?.isSome = seat.worker.cell?.isSome := by
  cases h with
  | begin => simp [Worker.begin]
  | mark => simp [Worker.mark]
  | sent id w _ hsent => rw [← Worker.cell?_of_send hsent]
  | unsent id e w _ hunsent => rw [← Worker.cell?_of_not_sent hunsent]
  | heard id r w _ hheard => rw [← Worker.cell?_of_listen hheard]
  | silent id w _ hsilent => rw [← Worker.cell?_of_listen hsilent]
  | _ => rfl

theorem Moved.worker? (h : Moved c call seat m call' seat') : call'.worker? = call.worker? := by
  cases h <;> rfl

theorem Moved.job (h : Moved c call seat m call' seat') : call'.job = call.job := by
  cases h <;> rfl

/-- A call goes on to a later stage, and its watchdog stays as it is. It must not pass its clearing or its reading
unseen. -/
theorem Fits.onward (h : call.Fits w) (hcell : w'.cell? = w.cell?) {s : Stage} (hle : call.stage.rank ≤ s.rank)
    (hbegun : 2 ≤ s.rank → 2 ≤ call.stage.rank) (halive : call.watchdog.isAlive = true → s.rank ≤ 6)
    (hverdict : ∀ b, s.verdict? = some b → b = call.watchdog.hasMarked)
    (hresult : ∀ e, s.result? = some (.error e) → e.OfExchange) : ({ call with stage := s } : Call).Fits w' := by
  have hsame := h.of_cell hcell
  refine ⟨fun hlt => ?_, fun ha => ⟨?_, halive ha⟩, hsame.timed, fun hlo hhi => ?_, hverdict, hresult⟩
  · exact h.unarmed (Nat.lt_of_le_of_lt hle hlt)
  · exact Nat.le_trans (h.alive ha).1 hle
  · exact hsame.shows (hbegun hlo) (Nat.le_trans hle hhi)

/-- A watchdog that is alive goes on, and the cell shows it. -/
theorem Fits.turned (h : call.Fits w) (halive : call.watchdog.isAlive = true) {d : Watchdog}
    (hcell : w'.cell?.isSome = w.cell?.isSome) (hshows : w'.interrupted = d.hasMarked) :
    ({ call with watchdog := d } : Call).Fits w' := by
  have hrank := h.alive halive
  have hpresent : call.watchdog ≠ .absent := by
    intro habsent
    rw [habsent] at halive
    cases halive
  refine ⟨fun hlt => ?_, fun _ => hrank, fun _ => ?_, fun _ _ => hshows, fun b hb => ?_, h.result⟩
  · have hlt' : call.stage.rank < 3 := hlt
    omega
  · rw [hcell]
    exact h.timed hpresent
  · have hnone : call.stage.verdict? = none := Stage.verdict?_of_rank_le (by omega)
    have hb' : call.stage.verdict? = some b := hb
    rw [hnone] at hb'
    cases hb'

/-- The number is taken and the cell is cleared. -/
theorem Fits.begun (h : call.Fits w) (hstage : call.stage = .entered) (id : Nat) :
    ({ call with stage := .begun id } : Call).Fits w.begin.2 := by
  have habsent := h.unarmed (by simp [hstage])
  refine ⟨fun _ => habsent, fun ha => ?_, fun hp => absurd habsent hp, fun _ _ => ?_, fun b hb => ?_, fun e he => ?_⟩
  · change call.watchdog.isAlive = true at ha
    rw [habsent] at ha
    cases ha
  · change _ = call.watchdog.hasMarked
    rw [Worker.interrupted_begin, habsent]
    rfl
  · cases hb
  · cases he

/-- A watchdog is armed over a cell that is clear. -/
theorem Fits.armed (h : call.Fits w) {id : Nat} (hstage : call.stage = .begun id) :
    ({ call with stage := .armed id, watchdog := call.newWatchdog w } : Call).Fits w := by
  have habsent := h.unarmed (by simp [hstage])
  have hclear : w.interrupted = false := by
    have hshows := h.shows (by simp [hstage]) (by simp [hstage])
    rw [habsent] at hshows
    exact hshows
  refine ⟨fun hlt => ?_, fun _ => by simp, fun hp => ?_, fun _ _ => ?_, fun b hb => ?_, fun e he => ?_⟩
  · simp at hlt
  · change call.newWatchdog w ≠ .absent at hp
    unfold newWatchdog at hp
    split at hp
    · rename_i htimed
      rwa [Bool.and_eq_true] at htimed
    · exact absurd rfl hp
  · change _ = (call.newWatchdog w).hasMarked
    rw [hclear]
    unfold newWatchdog
    split <;> rfl
  · cases hb
  · cases he

theorem Moved.fits (h : Moved c call seat m call' seat') (hfits : call.Fits seat.worker) :
    call'.Fits seat'.worker := by
  cases h with
  | enter hstage hfree =>
    refine hfits.onward rfl (by simp [hstage]) (by simp) (by simp) (fun b hb => ?_) fun e he => ?_
    · cases hb
    · cases he
  | begin hstage => exact hfits.begun hstage _
  | arm id hstage => exact hfits.armed hstage
  | sent id w hstage hsent =>
    refine hfits.onward (Worker.cell?_of_send hsent) (by simp [hstage]) (by simp [hstage]) (by simp) (fun b hb => ?_)
      fun e he => ?_
    · cases hb
    · cases he
  | unsent id e w hstage hunsent =>
    refine hfits.onward (Worker.cell?_of_not_sent hunsent) (by simp [hstage]) (by simp [hstage]) (by simp) (fun b hb => ?_) fun e' he => ?_
    · cases hb
    · cases he
      exact ofExchange_of_send hunsent
  | heard id r w hstage hheard =>
    refine hfits.onward (Worker.cell?_of_listen hheard) (by simp [hstage]) (by simp [hstage]) (by simp)
      (fun b hb => ?_) fun e he => ?_
    · cases hb
    · cases he
      exact Worker.ofExchange_of_listen hheard
  | silent id w hstage hsilent => exact hfits.of_cell (Worker.cell?_of_listen hsilent)
  | stop r hstage =>
    refine hfits.onward rfl (by simp [hstage]) (by simp [hstage]) (by simp) (fun b hb => ?_) fun e he => ?_
    · cases hb
    · exact hfits.result e (hstage ▸ he)
  | settle r hstage hover =>
    refine hfits.onward rfl (by simp [hstage]) (by simp [hstage]) (by simp [hover]) (fun b hb => ?_) fun e he => ?_
    · cases hb
    · exact hfits.result e (hstage ▸ he)
  | judge r hstage =>
    have hshows := hfits.shows (by simp [hstage]) (by simp [hstage])
    refine hfits.onward rfl (by simp [hstage]) (by simp [hstage]) (fun ha => ?_) (fun b hb => ?_) fun e he => ?_
    · have hrank := hfits.alive ha
      simp [hstage] at hrank
    · cases hb
      exact hshows
    · exact hfits.result e (hstage ▸ he)
  | leave r b hstage =>
    refine hfits.onward rfl (by simp [hstage]) (by simp [hstage]) (fun ha => ?_) (fun b' hb => ?_) fun e he => ?_
    · have hrank := hfits.alive ha
      simp [hstage] at hrank
    · exact hfits.verdict b' (hstage ▸ hb)
    · exact hfits.result e (hstage ▸ he)
  | mark harmed =>
    have htimed := hfits.timed (by simp [harmed])
    exact hfits.turned (by simp [harmed, Watchdog.isAlive]) (by simp [Worker.mark]) (Worker.interrupted_mark htimed.2)
  | strike hfiring =>
    have halive : call.watchdog.isAlive = true := by simp [hfiring, Watchdog.isAlive]
    have hrank := hfits.alive halive
    have hshows := hfits.shows (by omega) (by omega)
    rw [hfiring] at hshows
    exact hfits.turned halive rfl hshows
  | dismiss r hstage harmed =>
    have halive : call.watchdog.isAlive = true := by simp [harmed, Watchdog.isAlive]
    have hshows := hfits.shows (by simp [hstage]) (by simp [hstage])
    rw [harmed] at hshows
    exact hfits.turned halive rfl hshows

/-- Who moves at a seat holds the session or finds it free, and behind the move it holds the session just if its stage
says so. -/
theorem Moved.holder? (h : Moved c call seat m call' seat') (hfits : call.Fits seat.worker)
    (hholds : call.stage.inSession = true → seat.holder? = some c) :
    (seat.holder? = none ∨ seat.holder? = some c) ∧
      seat'.holder? = if call'.stage.inSession then some c else none := by
  -- every move but the first and the last is made inside the session
  have hinside : ∀ s : Stage, call.stage.inSession = true → s.inSession = true →
      (seat.holder? = none ∨ seat.holder? = some c) ∧ seat.holder? = if s.inSession then some c else none := by
    intro s hbefore hbehind
    have hself := hholds hbefore
    refine ⟨.inr hself, ?_⟩
    rw [if_pos hbehind]
    exact hself
  cases h with
  | enter hstage hfree => exact ⟨.inl hfree, rfl⟩
  | begin hstage => exact hinside (.begun _) (by rw [hstage]; rfl) rfl
  | arm id hstage => exact hinside (.armed id) (by rw [hstage]; rfl) rfl
  | sent id w hstage hsent => exact hinside (.written id) (by rw [hstage]; rfl) rfl
  | unsent id e w hstage hunsent => exact hinside (.answered (.error e)) (by rw [hstage]; rfl) rfl
  | heard id r w hstage hheard => exact hinside (.answered r) (by rw [hstage]; rfl) rfl
  | silent id w hstage hsilent => exact hinside call.stage (by rw [hstage]; rfl) (by rw [hstage]; rfl)
  | stop r hstage => exact hinside (.stopping r) (by rw [hstage]; rfl) rfl
  | settle r hstage hover => exact hinside (.quiet r) (by rw [hstage]; rfl) rfl
  | judge r hstage => exact hinside (.judged r _) (by rw [hstage]; rfl) rfl
  | leave r b hstage => exact ⟨.inr (hholds (by rw [hstage]; rfl)), rfl⟩
  | mark harmed =>
    have hsession := hfits.inSession (by simp [harmed, Watchdog.isAlive])
    exact hinside call.stage hsession hsession
  | strike hfiring =>
    have hsession := hfits.inSession (by simp [hfiring, Watchdog.isAlive])
    exact hinside call.stage hsession hsession
  | dismiss r hstage harmed => exact hinside call.stage (by rw [hstage]; rfl) (by rw [hstage]; rfl)

/-- What the moves of a call and its watchdog say of it. -/
structure Told (own : List Move) (call : Call) : Prop where
  begun : .begin ∈ own ↔ 2 ≤ call.stage.rank
  left : .leave ∈ own ↔ 9 ≤ call.stage.rank
  marked : .mark ∈ own ↔ call.watchdog.hasMarked = true
  firing : call.watchdog = .firing → List.Sublist [.begin, .mark] own
  fired : call.watchdog = .fired → List.Sublist [.begin, .mark, .strike] own
  judged : 8 ≤ call.stage.rank → call.watchdog = .fired → List.Sublist [.begin, .mark, .strike, .judge] own

theorem told_queued (job : Job) (n : Nat) : Told [] ⟨job, some n, .queued, .absent⟩ := by
  constructor <;> simp [Watchdog.hasMarked]

variable {own : List Move}

/-- A move that is none of those that count. -/
theorem Told.onward (h : Told own call) (hm : m ∉ [.begin, .leave, .mark, .strike, .judge])
    (hbegun : 2 ≤ call'.stage.rank ↔ 2 ≤ call.stage.rank) (hlate : 8 ≤ call'.stage.rank ↔ 8 ≤ call.stage.rank)
    (hleft : 9 ≤ call'.stage.rank ↔ 9 ≤ call.stage.rank)
    (hwatchdog : call'.watchdog = call.watchdog ∨
      call.watchdog.hasMarked = false ∧ call'.watchdog.hasMarked = false) : Told (own ++ [m]) call' := by
  have hlonger : ∀ {first : List Move}, List.Sublist first own → List.Sublist first (own ++ [m]) :=
    fun hfirst => hfirst.trans (List.sublist_append_left own [m])
  have hmem : ∀ m' ∈ [Move.begin, .leave, .mark, .strike, .judge], m' ∈ own ++ [m] ↔ m' ∈ own := by
    intro m' hm'
    rw [List.mem_append, List.mem_singleton, or_iff_left]
    rintro rfl
    exact hm hm'
  have hmarked : call'.watchdog.hasMarked = call.watchdog.hasMarked := by
    rcases hwatchdog with heq | ⟨hbefore, hbehind⟩
    · rw [heq]
    · rw [hbefore, hbehind]
  have hback : ∀ d : Watchdog, d.hasMarked = true → call'.watchdog = d → call.watchdog = d := by
    intro d hd heq
    rcases hwatchdog with hsame | ⟨_, hbehind⟩
    · rw [← hsame, heq]
    · rw [heq, hd] at hbehind
      cases hbehind
  constructor
  · rw [hmem _ (by simp), h.begun, hbegun]
  · rw [hmem _ (by simp), h.left, hleft]
  · rw [hmem _ (by simp), h.marked, hmarked]
  · intro hfiring
    exact hlonger (h.firing (hback .firing rfl hfiring))
  · intro hfired
    exact hlonger (h.fired (hback .fired rfl hfired))
  · intro hrank hfired
    exact hlonger (h.judged (hlate.1 hrank) (hback .fired rfl hfired))

theorem Moved.told (h : Moved c call seat m call' seat') (hfits : call.Fits seat.worker) (htold : Told own call) :
    Told (own ++ [m]) call' := by
  cases h with
  | enter hstage hfree =>
    exact htold.onward (by decide) (by simp [hstage]) (by simp [hstage]) (by simp [hstage]) (.inl rfl)
  | begin hstage =>
    have habsent := hfits.unarmed (by simp [hstage])
    constructor
    · simp
    · simp [htold.left, hstage]
    · simp [htold.marked]
    · intro hfiring
      rw [show call.watchdog = _ from habsent] at hfiring
      cases hfiring
    · intro hfired
      rw [show call.watchdog = _ from habsent] at hfired
      cases hfired
    · simp
  | arm id hstage =>
    have habsent := hfits.unarmed (by simp [hstage])
    refine htold.onward (by decide) (by simp [hstage]) (by simp [hstage]) (by simp [hstage]) (.inr ⟨?_, ?_⟩)
    · rw [habsent]
      rfl
    · change (call.newWatchdog seat.worker).hasMarked = false
      unfold newWatchdog
      split <;> rfl
  | sent id w hstage hsent =>
    exact htold.onward (by decide) (by simp [hstage]) (by simp [hstage]) (by simp [hstage]) (.inl rfl)
  | unsent id e w hstage hunsent =>
    exact htold.onward (by decide) (by simp [hstage]) (by simp [hstage]) (by simp [hstage]) (.inl rfl)
  | heard id r w hstage hheard =>
    exact htold.onward (by decide) (by simp [hstage]) (by simp [hstage]) (by simp [hstage]) (.inl rfl)
  | silent id w hstage hsilent => exact htold.onward (by decide) Iff.rfl Iff.rfl Iff.rfl (.inl rfl)
  | stop r hstage =>
    exact htold.onward (by decide) (by simp [hstage]) (by simp [hstage]) (by simp [hstage]) (.inl rfl)
  | settle r hstage hover =>
    exact htold.onward (by decide) (by simp [hstage]) (by simp [hstage]) (by simp [hstage]) (.inl rfl)
  | judge r hstage =>
    constructor
    · simp [htold.begun, hstage]
    · simp [htold.left, hstage]
    · simp [htold.marked]
    · intro hfiring
      exact (htold.firing hfiring).trans (List.sublist_append_left own _)
    · intro hfired
      exact (htold.fired hfired).trans (List.sublist_append_left own _)
    · intro _ hfired
      exact (htold.fired hfired).append (List.Sublist.refl [Move.judge])
  | leave r b hstage =>
    constructor
    · simp [htold.begun, hstage]
    · simp
    · simp [htold.marked]
    · intro hfiring
      exact (htold.firing hfiring).trans (List.sublist_append_left own _)
    · intro hfired
      exact (htold.fired hfired).trans (List.sublist_append_left own _)
    · intro _ hfired
      exact (htold.judged (by simp [hstage]) hfired).trans (List.sublist_append_left own _)
  | mark harmed =>
    have hrank := hfits.alive (by simp [harmed, Watchdog.isAlive])
    have hbegun : .begin ∈ own := htold.begun.2 (by omega)
    constructor
    · simp [htold.begun]
    · simp [htold.left]
    · simp [Watchdog.hasMarked]
    · intro _
      exact (List.singleton_sublist.2 hbegun).append (List.Sublist.refl [Move.mark])
    · intro hfired
      cases hfired
    · intro _ hfired
      cases hfired
  | strike hfiring =>
    have hrank := hfits.alive (by simp [hfiring, Watchdog.isAlive])
    constructor
    · simp [htold.begun]
    · simp [htold.left]
    · simp [htold.marked, hfiring, Watchdog.hasMarked]
    · intro hfiring'
      cases hfiring'
    · intro _
      exact (htold.firing hfiring).append (List.Sublist.refl [Move.strike])
    · intro hlate _
      have hlate' : 8 ≤ call.stage.rank := hlate
      omega
  | dismiss r hstage harmed =>
    refine htold.onward (by decide) Iff.rfl Iff.rfl Iff.rfl (.inr ⟨?_, rfl⟩)
    rw [harmed]
    rfl

/-! The report of a call -/

theorem Fits.done (h : call.Fits w) {r : Except EngineError Reply} {b : Bool} (hstage : call.stage = .left r b) :
    ({ call with stage := .done r b } : Call).Fits w := by
  refine h.onward rfl (by simp [hstage]) (by simp [hstage]) (fun ha => ?_) (fun b' hb => ?_) fun e he => ?_
  · have hrank := h.alive ha
    simp [hstage] at hrank
  · exact h.verdict b' (hstage ▸ hb)
  · exact h.result e (hstage ▸ he)

theorem Told.done (h : Told own call) {r : Except EngineError Reply} {b : Bool} (hstage : call.stage = .left r b) :
    Told own { call with stage := .done r b } := by
  refine ⟨?_, ?_, h.marked, h.firing, h.fired, fun _ hfired => h.judged (by simp [hstage]) hfired⟩
  · simp [h.begun, hstage]
  · simp [h.left, hstage]

end Call

end Traffic

end ScriptBench
