import ScriptBench.Engine.Basic
import ScriptBench.Proofs.Engine.Supervisor

/-! Any number of callers who ask for the live worker, in any order with the steps of the starts that they set off,
with crash reports and with shutdowns. -/
namespace ScriptBench

/-- How far a start has come. -/
inductive Start where
  /-- It writes the driver program. -/
  | installing
  /-- It waits for the interpreter. -/
  | launching
  | ended (result : Except EngineError Nat)

/-- A caller who has asked for the live worker. -/
inductive Guest where
  | admitted (worker : Nat)
  /-- The caller has set the start off or has joined it. -/
  | waiting (start : Nat)
  | served (start : Nat) (result : Except EngineError Nat)

/-- A supervisor with its callers and their starts. Both are known by their number, as workers are. -/
structure Lobby where
  supervisor : Supervisor Nat
  /-- The start that callers are told to wait for. -/
  current? : Option Nat
  starts : List Start
  guests : List Guest
  /-- How many workers became ready. -/
  workers : Nat

namespace Lobby

def initial : Lobby := ⟨.initial, none, [], [], 0⟩

/-! What a lobby does -/

/-- A caller asks for the live worker. -/
def arrive (d : Lobby) : Option Lobby :=
  match d.supervisor.request with
  | (.ready w, s) => some { d with supervisor := s, guests := d.guests ++ [.admitted w] }
  | (.joins, s) =>
    d.current?.map fun k => { d with supervisor := s, guests := d.guests ++ [.waiting k] }
  | (.starts, s) =>
    let k := d.starts.length
    some ⟨s, some k, d.starts ++ [.installing], d.guests ++ [.waiting k], d.workers⟩

/-- A start has written the driver program. -/
def installed (d : Lobby) (k : Nat) : Option Lobby :=
  match d.starts[k]? with
  | some .installing => some { d with supervisor := d.supervisor.installed, starts := d.starts.set k .launching }
  | _ => none

def finish (d : Lobby) (k : Nat) (result : Except EngineError Nat) : Lobby :=
  { d with supervisor := d.supervisor.finish result, current? := none, starts := d.starts.set k (.ended result) }

/-- The interpreter of a start is ready and makes a new worker. -/
def launched (d : Lobby) (k : Nat) : Option Lobby :=
  match d.starts[k]? with
  | some .launching => some { d.finish k (.ok d.workers) with workers := d.workers + 1 }
  | _ => none

def failed (d : Lobby) (k : Nat) (f : StartFault) : Option Lobby :=
  match d.starts[k]? with
  | some .installing | some .launching => some (d.finish k (.error (.initialization f)))
  | _ => none

/-- A caller who waits for a start that has ended gets its result. -/
def serve (d : Lobby) (g : Nat) : Option Lobby :=
  match d.guests[g]? with
  | some (.waiting k) =>
    match d.starts[k]? with
    | some (.ended result) => some { d with guests := d.guests.set g (.served k result) }
    | _ => none
  | _ => none

def forget (d : Lobby) (w : Nat) (reason : EngineError) : Lobby :=
  { d with supervisor := d.supervisor.forget w reason }

/-- A shutdown takes the live worker away. -/
def take (d : Lobby) : Lobby := { d with supervisor := d.supervisor.take.2 }

inductive Event where
  | arrive
  | installed (start : Nat)
  | launched (start : Nat)
  | failed (start : Nat) (f : StartFault)
  | serve (guest : Nat)
  | forget (worker : Nat) (reason : EngineError)
  | take

/-- One step, if it can be made. -/
def step (d : Lobby) : Event → Option Lobby
  | .arrive => d.arrive
  | .installed k => d.installed k
  | .launched k => d.launched k
  | .failed k f => d.failed k f
  | .serve g => d.serve g
  | .forget w reason => some (d.forget w reason)
  | .take => some d.take

def run (d : Lobby) (events : List Event) : Option Lobby := events.foldlM step d

variable {d d' d'' : Lobby} {k : Nat}

@[simp] theorem run_nil (d : Lobby) : d.run [] = some d := rfl

theorem run_cons_eq_some_iff {x : Event} {events : List Event} :
    d.run (x :: events) = some d'' ↔ ∃ d', d.step x = some d' ∧ d'.run events = some d'' := by
  unfold run
  rw [List.foldlM_cons]
  exact Option.bind_eq_some_iff

theorem run_append_eq_some_iff {first later : List Event} :
    d.run (first ++ later) = some d'' ↔ ∃ d', d.run first = some d' ∧ d'.run later = some d'' := by
  unfold run
  rw [List.foldlM_append]
  exact Option.bind_eq_some_iff

/-- What each step keeps is kept by every run. -/
theorem run_induction {P : Lobby → Prop} (hstep : ∀ d d' x, P d → d.step x = some d' → P d')
    {events : List Event} (hd : P d) (h : d.run events = some d') : P d' := by
  induction events generalizing d with
  | nil =>
    cases h
    exact hd
  | cons x events ih =>
    obtain ⟨d₁, hx, hrest⟩ := run_cons_eq_some_iff.1 h
    exact ih (hstep d d₁ x hd hx) hrest

/-! What each step can do -/

theorem installed_eq_some_iff :
    d.installed k = some d' ↔ d.starts[k]? = some .installing ∧
      d' = { d with supervisor := d.supervisor.installed, starts := d.starts.set k .launching } := by
  unfold installed
  split
  · rename_i hk
    simp [hk, eq_comm]
  · rename_i hk
    simp only [reduceCtorEq, false_iff, not_and]
    exact fun hk' => absurd hk' hk

theorem launched_eq_some_iff :
    d.launched k = some d' ↔ d.starts[k]? = some .launching ∧
      d' = { d.finish k (.ok d.workers) with workers := d.workers + 1 } := by
  unfold launched
  split
  · rename_i hk
    simp [hk, eq_comm]
  · rename_i hk
    simp only [reduceCtorEq, false_iff, not_and]
    exact fun hk' => absurd hk' hk

/-- Whether a start has not ended yet. -/
def UnderWay (d : Lobby) (k : Nat) : Prop := d.starts[k]? = some .installing ∨ d.starts[k]? = some .launching

theorem failed_eq_some_iff {f : StartFault} :
    d.failed k f = some d' ↔ d.UnderWay k ∧ d' = d.finish k (.error (.initialization f)) := by
  unfold failed UnderWay
  split
  · rename_i hk
    simp [hk, eq_comm]
  · rename_i hk
    simp [hk, eq_comm]
  · rename_i hinstalling hlaunching
    simp only [reduceCtorEq, false_iff, not_and]
    exact fun hk => (hk.elim hinstalling hlaunching).elim

theorem serve_eq_some_iff {g : Nat} :
    d.serve g = some d' ↔ ∃ k result, d.guests[g]? = some (.waiting k) ∧
      d.starts[k]? = some (.ended result) ∧ d' = { d with guests := d.guests.set g (.served k result) } := by
  unfold serve
  split
  · rename_i k hg
    split
    · rename_i result hk
      simp [hg, hk, eq_comm]
    · rename_i hk
      simp only [reduceCtorEq, false_iff, not_exists, not_and]
      intro k' result hk' hended
      rw [hg] at hk'
      cases hk'
      exact absurd hended (hk result)
  · rename_i hg
    simp only [reduceCtorEq, false_iff, not_exists, not_and]
    intro k result hk
    exact absurd hk (hg k)

/-- A caller is admitted to the live worker, waits for the start under way, or sets one off. -/
theorem arrive_eq_some_iff :
    d.arrive = some d' ↔
      (∃ w, d.supervisor.live = some w ∧ d' = { d with guests := d.guests ++ [.admitted w] }) ∨
      (d.supervisor.live = none ∧ d.supervisor.inFlight = true ∧
        ∃ k, d.current? = some k ∧ d' = { d with guests := d.guests ++ [.waiting k] }) ∨
      (d.supervisor.live = none ∧ d.supervisor.inFlight = false ∧
        d' = ⟨{ d.supervisor with
            inFlight := true, loading := true, lastError := none, starts := d.supervisor.starts + 1 },
          some d.starts.length, d.starts ++ [.installing], d.guests ++ [.waiting d.starts.length], d.workers⟩) := by
  unfold arrive
  cases hlive : d.supervisor.live with
  | some w =>
    rw [Supervisor.request_of_live hlive]
    simp [@eq_comm _ d']
  | none =>
    cases hflight : d.supervisor.inFlight with
    | true =>
      rw [Supervisor.request_of_inFlight hlive hflight]
      simp [Option.map_eq_some_iff, @eq_comm _ d']
    | false =>
      rw [Supervisor.request_of_idle hlive hflight]
      simp [@eq_comm _ d']

/-! What holds at any time -/

/-- How the supervisor, the starts and the callers fit together. -/
structure Orderly (d : Lobby) : Prop where
  sound : d.supervisor.Sound
  inFlight_eq : d.supervisor.inFlight = d.current?.isSome
  underWay_iff : ∀ k, d.UnderWay k ↔ d.current? = some k
  loading : ∀ k : Nat, d.starts[k]? = some .installing → d.supervisor.loading = true
  launching : ∀ k : Nat, d.starts[k]? = some .launching → d.supervisor.initializing = true
  starts_eq : d.supervisor.starts = d.starts.length
  live_lt : ∀ w, d.supervisor.live = some w → w < d.workers
  /-- Who waits, waits for a start that there is. -/
  waiting_lt : ∀ g k : Nat, d.guests[g]? = some (.waiting k) → k < d.starts.length
  served_eq : ∀ (g k : Nat) (result : Except EngineError Nat), d.guests[g]? = some (.served k result) →
    d.starts[k]? = some (.ended result)

theorem orderly_initial : initial.Orderly := by
  constructor
  · exact Supervisor.sound_initial
  all_goals simp [initial, Supervisor.initial, UnderWay]

theorem Orderly.inFlight_of_underWay (h : d.Orderly) (hk : d.UnderWay k) : d.supervisor.inFlight = true := by
  rw [h.inFlight_eq, (h.underWay_iff k).1 hk]
  rfl

/-- A caller who finds no live worker and no start under way sets one off. -/
theorem Orderly.started (h : d.Orderly) (hlive : d.supervisor.live = none) (hflight : d.supervisor.inFlight = false) :
    Orderly ⟨{ d.supervisor with
        inFlight := true, loading := true, lastError := none, starts := d.supervisor.starts + 1 },
      some d.starts.length, d.starts ++ [.installing], d.guests ++ [.waiting d.starts.length], d.workers⟩ := by
  have hcurrent : d.current? = none := by
    have := h.inFlight_eq
    rw [hflight] at this
    simpa using this.symm
  have hunder : ∀ k, ¬d.UnderWay k := by
    intro k hk
    rw [h.underWay_iff, hcurrent] at hk
    cases hk
  have hidle : ∀ k : Nat, d.starts[k]? ≠ some .installing ∧ d.starts[k]? ≠ some .launching := by
    intro k
    exact ⟨fun hk => hunder k (.inl hk), fun hk => hunder k (.inr hk)⟩
  constructor
  · exact h.sound.started hlive hflight
  · rfl
  · intro k
    unfold UnderWay
    simp only [List.getElem?_append, List.getElem?_singleton]
    grind
  · intro k _
    rfl
  · intro k hk
    grind
  · change d.supervisor.starts + 1 = _
    rw [h.starts_eq, List.length_append, List.length_singleton]
  · intro w hw
    exact h.live_lt w hw
  · intro g k hg
    have := h.waiting_lt g k
    grind
  · intro g k result hg
    have := h.served_eq g k result
    grind

/-- A new caller may be admitted, or wait for a start that there is. -/
theorem Orderly.joined (h : d.Orderly) {g : Guest} (hwaiting : ∀ k, g = .waiting k → k < d.starts.length)
    (hserved : ∀ k result, g ≠ .served k result) : Orderly { d with guests := d.guests ++ [g] } := by
  refine ⟨h.sound, h.inFlight_eq, h.underWay_iff, h.loading, h.launching, h.starts_eq, h.live_lt, ?_, ?_⟩
  · intro i k hi
    have := h.waiting_lt i k
    grind
  · intro i k result hi
    have := h.served_eq i k result
    grind

theorem Orderly.arrive (h : d.Orderly) (hd : d.arrive = some d') : d'.Orderly := by
  rcases arrive_eq_some_iff.1 hd with ⟨w, hlive, rfl⟩ | ⟨hlive, hflight, k, hk, rfl⟩ | ⟨hlive, hflight, rfl⟩
  · exact h.joined (fun _ hg => nomatch hg) fun _ _ hg => nomatch hg
  · have hlt : k < d.starts.length := by
      have hunder := (h.underWay_iff k).2 hk
      rcases hunder with hk | hk <;> exact (List.getElem?_eq_some_iff.1 hk).1
    refine h.joined (fun k' hg => ?_) fun _ _ hg => nomatch hg
    injection hg with hg
    rwa [← hg]
  · exact h.started hlive hflight

/-- The stage of a start moves on. -/
theorem Orderly.installed (h : d.Orderly) (hd : d.installed k = some d') : d'.Orderly := by
  obtain ⟨hk, rfl⟩ := installed_eq_some_iff.1 hd
  have hlt : k < d.starts.length := (List.getElem?_eq_some_iff.1 hk).1
  have hunder : ∀ j, d.UnderWay j → j = k := by
    intro j hj
    have hj' := (h.underWay_iff j).1 hj
    have hk' := (h.underWay_iff k).1 (.inl hk)
    rw [hj'] at hk'
    injection hk'
  constructor
  · exact h.sound.installed (h.loading k hk)
  · exact h.inFlight_eq
  · intro j
    by_cases hj : k = j
    · subst hj
      exact ⟨fun _ => (h.underWay_iff k).1 (.inl hk), fun _ => .inr (List.getElem?_set_self hlt)⟩
    · unfold UnderWay
      dsimp only
      rw [List.getElem?_set_ne hj]
      exact h.underWay_iff j
  · intro j hj
    unfold UnderWay at hunder
    grind
  · intro j _
    rfl
  · rw [List.length_set]
    exact h.starts_eq
  · exact h.live_lt
  · intro g j hg
    rw [List.length_set]
    exact h.waiting_lt g j hg
  · intro g j result hg
    have := h.served_eq g j result hg
    grind

/-- A start that is under way ends. If it makes a worker, this is one that there is. -/
theorem Orderly.finish (h : d.Orderly) (hk : d.UnderWay k) {result : Except EngineError Nat} {workers : Nat}
    (hworkers : ∀ w, result = .ok w → w < workers) :
    Orderly { d.finish k result with workers := workers } := by
  have hflight := h.inFlight_of_underWay hk
  have hlt : k < d.starts.length := by
    rcases hk with hk | hk <;> exact (List.getElem?_eq_some_iff.1 hk).1
  have hunder : ∀ j, j ≠ k → ¬d.UnderWay j := by
    intro j hj hj'
    rw [h.underWay_iff] at hj' hk
    rw [hj'] at hk
    injection hk with hk
    exact hj hk
  have hidle : ∀ j : Nat, (d.starts.set k (.ended result))[j]? ≠ some .installing ∧
      (d.starts.set k (.ended result))[j]? ≠ some .launching := by
    intro j
    have := hunder j
    unfold UnderWay at this
    grind
  constructor
  · exact h.sound.finish hflight result
  · cases result <;> rfl
  · intro j
    constructor
    · rintro (hj | hj)
      · exact absurd hj (hidle j).1
      · exact absurd hj (hidle j).2
    · intro hj
      cases hj
  · intro j hj
    exact absurd hj (hidle j).1
  · intro j hj
    exact absurd hj (hidle j).2
  · have hstarts : (d.supervisor.finish result).starts = d.supervisor.starts := by cases result <;> rfl
    change (d.supervisor.finish result).starts = (d.starts.set k (.ended result)).length
    rw [hstarts, h.starts_eq, List.length_set]
  · intro w hw
    cases result with
    | ok w' =>
      have hww : w' = w := by
        injection hw
      exact hww ▸ hworkers w' rfl
    | error e =>
      have hlive : d.supervisor.live = some w := hw
      rw [h.sound.alone hflight] at hlive
      cases hlive
  · intro g j hg
    change j < (d.starts.set k (.ended result)).length
    rw [List.length_set]
    exact h.waiting_lt g j hg
  · intro g j result' hg
    have hj := h.served_eq g j result' hg
    -- a start that is under way has no result yet
    have hne : j ≠ k := by
      rintro rfl
      rcases hk with hk | hk <;> rw [hj] at hk <;> cases hk
    change (d.starts.set k (.ended result))[j]? = _
    rw [List.getElem?_set_ne hne.symm]
    exact hj

theorem Orderly.launched (h : d.Orderly) (hd : d.launched k = some d') : d'.Orderly := by
  obtain ⟨hk, rfl⟩ := launched_eq_some_iff.1 hd
  refine h.finish (.inr hk) fun w hw => ?_
  injection hw with hw
  rw [← hw]
  exact Nat.lt_succ_self d.workers

theorem Orderly.failed {f : StartFault} (h : d.Orderly) (hd : d.failed k f = some d') : d'.Orderly := by
  obtain ⟨hk, rfl⟩ := failed_eq_some_iff.1 hd
  have hworkers : ∀ w, (.error (.initialization f) : Except EngineError Nat) = .ok w → w < d.workers := nofun
  exact h.finish hk hworkers

theorem Orderly.serve {g : Nat} (h : d.Orderly) (hd : d.serve g = some d') : d'.Orderly := by
  obtain ⟨k, result, hg, hk, rfl⟩ := serve_eq_some_iff.1 hd
  refine ⟨h.sound, h.inFlight_eq, h.underWay_iff, h.loading, h.launching, h.starts_eq, h.live_lt, ?_, ?_⟩
  · intro i j hi
    have := h.waiting_lt i j
    grind
  · intro i j result' hi
    by_cases hgi : g = i
    · subst hgi
      change (d.guests.set g (.served k result))[g]? = _ at hi
      rw [List.getElem?_set_self (List.getElem?_eq_some_iff.1 hg).1] at hi
      cases hi
      exact hk
    · change (d.guests.set g (.served k result))[i]? = _ at hi
      rw [List.getElem?_set_ne hgi] at hi
      exact h.served_eq i j result' hi

theorem Orderly.forget (h : d.Orderly) (w : Nat) (reason : EngineError) : (d.forget w reason).Orderly := by
  by_cases hlive : d.supervisor.live = some w
  · have heq : d.forget w reason =
        { d with supervisor := { d.supervisor with live := none, lastError := some reason } } := by
      unfold Lobby.forget
      rw [Supervisor.forget_of_live hlive]
    have hsound := h.sound.forget w reason
    rw [Supervisor.forget_of_live hlive] at hsound
    rw [heq]
    exact ⟨hsound, h.inFlight_eq, h.underWay_iff, h.loading, h.launching, h.starts_eq, (fun _ hw => nomatch hw),
      h.waiting_lt, h.served_eq⟩
  · have heq : d.forget w reason = d := by
      unfold Lobby.forget
      rw [Supervisor.forget_of_ne hlive]
    rw [heq]
    exact h

theorem Orderly.take (h : d.Orderly) : d.take.Orderly :=
  ⟨h.sound.take, h.inFlight_eq, h.underWay_iff, h.loading, h.launching, h.starts_eq, (fun _ hw => nomatch hw),
    h.waiting_lt, h.served_eq⟩

theorem Orderly.step {x : Event} (h : d.Orderly) (hd : d.step x = some d') : d'.Orderly := by
  cases x with
  | arrive => exact h.arrive hd
  | installed k => exact h.installed hd
  | launched k => exact h.launched hd
  | failed k f => exact h.failed hd
  | serve g => exact h.serve hd
  | forget w reason =>
    cases hd
    exact h.forget w reason
  | take =>
    cases hd
    exact h.take

theorem Orderly.run {events : List Event} (h : d.Orderly) (hd : d.run events = some d') : d'.Orderly :=
  run_induction (fun _ _ _ h hx => h.step hx) h hd

/-! What becomes of workers -/

/-- No worker is ever counted out. -/
theorem workers_le_step {x : Event} (hd : d.step x = some d') : d.workers ≤ d'.workers := by
  cases x with
  | arrive =>
    rcases arrive_eq_some_iff.1 hd with ⟨_, _, rfl⟩ | ⟨_, _, _, _, rfl⟩ | ⟨_, _, rfl⟩ <;> exact Nat.le_refl _
  | installed k =>
    obtain ⟨_, rfl⟩ := installed_eq_some_iff.1 hd
    exact Nat.le_refl _
  | launched k =>
    obtain ⟨_, rfl⟩ := launched_eq_some_iff.1 hd
    exact Nat.le_succ _
  | failed k f =>
    obtain ⟨_, rfl⟩ := failed_eq_some_iff.1 hd
    exact Nat.le_refl _
  | serve g =>
    obtain ⟨_, _, _, _, rfl⟩ := serve_eq_some_iff.1 hd
    exact Nat.le_refl _
  | forget w reason =>
    cases hd
    exact Nat.le_refl _
  | take =>
    cases hd
    exact Nat.le_refl _

/-- The live worker stays, or a new one comes where there was none, or it is taken away or forgotten. -/
theorem Orderly.live_step {x : Event} (h : d.Orderly) (hd : d.step x = some d') :
    d'.supervisor.live = d.supervisor.live ∨
      d.supervisor.live = none ∧ d'.supervisor.live = some d.workers ∨
      d'.supervisor.live = none ∧
        (x = .take ∨ ∃ w reason, x = .forget w reason ∧ d.supervisor.live = some w) := by
  cases x with
  | arrive =>
    rcases arrive_eq_some_iff.1 hd with ⟨_, _, rfl⟩ | ⟨_, _, _, _, rfl⟩ | ⟨_, _, rfl⟩ <;> exact .inl rfl
  | installed k =>
    obtain ⟨_, rfl⟩ := installed_eq_some_iff.1 hd
    exact .inl rfl
  | launched k =>
    obtain ⟨hk, rfl⟩ := launched_eq_some_iff.1 hd
    exact .inr (.inl ⟨h.sound.alone (h.inFlight_of_underWay (.inr hk)), rfl⟩)
  | failed k f =>
    obtain ⟨_, rfl⟩ := failed_eq_some_iff.1 hd
    exact .inl rfl
  | serve g =>
    obtain ⟨_, _, _, _, rfl⟩ := serve_eq_some_iff.1 hd
    exact .inl rfl
  | forget w reason =>
    cases hd
    by_cases hlive : d.supervisor.live = some w
    · refine .inr (.inr ⟨?_, .inr ⟨w, reason, rfl, hlive⟩⟩)
      change (d.supervisor.forget w reason).live = none
      rw [Supervisor.forget_of_live hlive]
    · refine .inl ?_
      change (d.supervisor.forget w reason).live = _
      rw [Supervisor.forget_of_ne hlive]
  | take =>
    cases hd
    exact .inr (.inr ⟨rfl, .inl rfl⟩)

/-- A worker that is there and not live does not become live again. -/
theorem Orderly.gone_step {x : Event} {n : Nat} (h : d.Orderly) (hn : n < d.workers)
    (hgone : d.supervisor.live ≠ some n) (hd : d.step x = some d') :
    n < d'.workers ∧ d'.supervisor.live ≠ some n := by
  refine ⟨Nat.lt_of_lt_of_le hn (workers_le_step hd), ?_⟩
  rcases h.live_step hd with heq | ⟨_, hnew⟩ | ⟨hnone, _⟩
  · rw [heq]
    exact hgone
  · rw [hnew]
    intro heq
    injection heq with heq
    omega
  · rw [hnone]
    exact nofun

end Lobby

end ScriptBench
