import ScriptBench.Proofs.Traffic.Lobby

/-! What comes of starts. One is under way at most, and all who wait for it get its own result. -/
namespace ScriptBench

namespace Lobby

variable {d d' : Lobby} {k : Nat}

/-! What becomes of a caller -/

/-- A caller of a start still waits for it, or has its own result. -/
def Holds (d : Lobby) (g k : Nat) : Prop :=
  d.guests[g]? = some (.waiting k) ∨
    ∃ result, d.guests[g]? = some (.served k result) ∧ d.starts[k]? = some (.ended result)

/-- The result of a start is never changed. -/
theorem ended_step {x : Event} {result : Except EngineError Nat} (hk : d.starts[k]? = some (.ended result))
    (hd : d.step x = some d') : d'.starts[k]? = some (.ended result) := by
  have hset : ∀ (j : Nat) (s : Start), d.UnderWay j → (d.starts.set j s)[k]? = some (.ended result) := by
    intro j s hj
    have hne : j ≠ k := by
      rintro rfl
      rcases hj with hj | hj <;> rw [hk] at hj <;> cases hj
    rw [List.getElem?_set_ne hne]
    exact hk
  cases x with
  | arrive =>
    rcases arrive_eq_some_iff.1 hd with ⟨w, _, rfl⟩ | ⟨_, _, j, _, rfl⟩ | ⟨_, _, rfl⟩
    · exact hk
    · exact hk
    · have hlt := (List.getElem?_eq_some_iff.1 hk).1
      change (d.starts ++ [Start.installing])[k]? = _
      rw [List.getElem?_append_left hlt]
      exact hk
  | installed j =>
    obtain ⟨hj, rfl⟩ := installed_eq_some_iff.1 hd
    exact hset j .launching (.inl hj)
  | launched j =>
    obtain ⟨hj, rfl⟩ := launched_eq_some_iff.1 hd
    exact hset j _ (.inr hj)
  | failed j f =>
    obtain ⟨hj, rfl⟩ := failed_eq_some_iff.1 hd
    exact hset j _ hj
  | serve g =>
    obtain ⟨j, result', _, _, rfl⟩ := serve_eq_some_iff.1 hd
    exact hk
  | forget w reason =>
    cases hd
    exact hk
  | take =>
    cases hd
    exact hk

/-- A step leaves a caller's place alone, unless it is the one that serves the caller. -/
theorem guests_step {x : Event} {g : Nat} {guest : Guest} (hg : d.guests[g]? = some guest)
    (hd : d.step x = some d') : d'.guests[g]? = some guest ∨
      ∃ k result, guest = .waiting k ∧ d.starts[k]? = some (.ended result) ∧
        d'.guests[g]? = some (.served k result) := by
  have hlt := (List.getElem?_eq_some_iff.1 hg).1
  have happend : ∀ newcomer : Guest, (d.guests ++ [newcomer])[g]? = some guest := by
    intro newcomer
    rw [List.getElem?_append_left hlt]
    exact hg
  cases x with
  | arrive =>
    rcases arrive_eq_some_iff.1 hd with ⟨w, _, rfl⟩ | ⟨_, _, j, _, rfl⟩ | ⟨_, _, rfl⟩
    · exact .inl (happend _)
    · exact .inl (happend _)
    · exact .inl (happend _)
  | installed j =>
    obtain ⟨_, rfl⟩ := installed_eq_some_iff.1 hd
    exact .inl hg
  | launched j =>
    obtain ⟨_, rfl⟩ := launched_eq_some_iff.1 hd
    exact .inl hg
  | failed j f =>
    obtain ⟨_, rfl⟩ := failed_eq_some_iff.1 hd
    exact .inl hg
  | serve g' =>
    obtain ⟨k, result, hg', hk, rfl⟩ := serve_eq_some_iff.1 hd
    by_cases heq : g' = g
    · subst heq
      rw [hg] at hg'
      injection hg' with hguest
      have hserved : (d.guests.set g' (.served k result))[g']? = some (.served k result) :=
        List.getElem?_set_self hlt
      exact .inr ⟨k, result, hguest, hk, hserved⟩
    · have hother : (d.guests.set g' (.served k result))[g]? = some guest := by
        rw [List.getElem?_set_ne heq]
        exact hg
      exact .inl hother
  | forget w reason =>
    cases hd
    exact .inl hg
  | take =>
    cases hd
    exact .inl hg

theorem Holds.step {x : Event} {g : Nat} (h : d.Holds g k) (hd : d.step x = some d') : d'.Holds g k := by
  rcases h with hg | ⟨result, hg, hk⟩
  · rcases guests_step hg hd with hg' | ⟨k', result, hkk, hk', hg'⟩
    · exact .inl hg'
    · injection hkk with hkk
      subst hkk
      exact .inr ⟨result, hg', ended_step hk' hd⟩
  · rcases guests_step hg hd with hg' | ⟨k', result, hkk, _, _⟩
    · exact .inr ⟨result, hg', ended_step hk hd⟩
    · cases hkk

theorem Holds.run {events : List Event} {g : Nat} (h : d.Holds g k) (hd : d.run events = some d') : d'.Holds g k :=
  run_induction (P := fun d => d.Holds g k) (fun _ _ _ h hx => h.step hx) h hd

/-- How a caller is received. -/
inductive Received (d d' : Lobby) : Prop where
  | admitted (w : Nat) (live : d.supervisor.live = some w) (guests : d'.guests = d.guests ++ [.admitted w])
    (starts : d'.starts = d.starts)
  | joined (k : Nat) (underWay : d.UnderWay k) (guests : d'.guests = d.guests ++ [.waiting k])
    (starts : d'.starts = d.starts)
  | began (idle : ∀ k, ¬d.UnderWay k) (live : d.supervisor.live = none)
    (guests : d'.guests = d.guests ++ [.waiting d.starts.length]) (starts : d'.starts = d.starts ++ [.installing])

theorem Orderly.idle (h : d.Orderly) (hflight : d.supervisor.inFlight = false) (k : Nat) : ¬d.UnderWay k := by
  intro hk
  rw [h.inFlight_of_underWay hk] at hflight
  cases hflight

/-- A caller is always received at once. -/
theorem Orderly.exists_arrive (h : d.Orderly) : ∃ d', d.arrive = some d' ∧ d.Received d' := by
  cases hlive : d.supervisor.live with
  | some w => exact ⟨_, arrive_eq_some_iff.2 (.inl ⟨w, hlive, rfl⟩), .admitted w hlive rfl rfl⟩
  | none =>
    cases hflight : d.supervisor.inFlight with
    | true =>
      have hsome : d.current?.isSome := by rw [← h.inFlight_eq, hflight]
      obtain ⟨k, hk⟩ := Option.isSome_iff_exists.1 hsome
      have hunder := (h.underWay_iff k).2 hk
      exact ⟨_, arrive_eq_some_iff.2 (.inr (.inl ⟨hlive, hflight, k, hk, rfl⟩)), .joined k hunder rfl rfl⟩
    | false =>
      exact ⟨_, arrive_eq_some_iff.2 (.inr (.inr ⟨hlive, hflight, rfl⟩)), .began (h.idle hflight) hlive rfl rfl⟩

/-- A caller who waits can still be served. If the start has ended, this can be the next step. -/
theorem Orderly.exists_serve (h : d.Orderly) {g : Nat} (hg : d.guests[g]? = some (.waiting k)) :
    ∃ later d' result, d.run later = some d' ∧ d'.guests[g]? = some (.served k result) := by
  have hlt := (List.getElem?_eq_some_iff.1 hg).1
  have hserve : ∀ (d₁ : Lobby) (result : Except EngineError Nat), d₁.guests = d.guests →
      d₁.starts[k]? = some (.ended result) → ∃ d₂, d₁.serve g = some d₂ ∧ d₂.guests[g]? = some (.served k result) := by
    intro d₁ result hguests hk
    have hg₁ : d₁.guests[g]? = some (.waiting k) := by rw [hguests]; exact hg
    refine ⟨_, serve_eq_some_iff.2 ⟨k, result, hg₁, hk, rfl⟩, ?_⟩
    exact List.getElem?_set_self (hguests ▸ hlt)
  have hk : k < d.starts.length := h.waiting_lt g k hg
  by_cases hunder : d.UnderWay k
  · have hfailed : d.failed k .endedEarly = some (d.finish k (.error (.initialization .endedEarly))) :=
      failed_eq_some_iff.2 ⟨hunder, rfl⟩
    have hended : (d.finish k (.error (.initialization .endedEarly))).starts[k]? =
        some (.ended (.error (.initialization .endedEarly))) := List.getElem?_set_self hk
    obtain ⟨d₂, hd₂, hg₂⟩ := hserve (d.finish k (.error (.initialization .endedEarly))) _ rfl hended
    refine ⟨[.failed k .endedEarly, .serve g], d₂, _, ?_, hg₂⟩
    exact run_cons_eq_some_iff.2 ⟨_, hfailed, run_cons_eq_some_iff.2 ⟨d₂, hd₂, rfl⟩⟩
  · have hended : ∃ result, d.starts[k]? = some (.ended result) := by
      rw [List.getElem?_eq_getElem hk]
      cases hs : d.starts[k] with
      | installing => exact absurd (.inl (by rw [List.getElem?_eq_getElem hk, hs])) hunder
      | launching => exact absurd (.inr (by rw [List.getElem?_eq_getElem hk, hs])) hunder
      | ended result => exact ⟨result, rfl⟩
    obtain ⟨result, hended⟩ := hended
    obtain ⟨d₂, hd₂, hg₂⟩ := hserve d result rfl hended
    exact ⟨[.serve g], d₂, result, run_cons_eq_some_iff.2 ⟨d₂, hd₂, rfl⟩, hg₂⟩

/-! How a start ends -/

theorem launched_settled (hd : d.launched k = some d') :
    d'.supervisor.live = some d.workers ∧ d'.supervisor.inFlight = false ∧
      d'.starts[k]? = some (.ended (.ok d.workers)) := by
  obtain ⟨hk, rfl⟩ := launched_eq_some_iff.1 hd
  exact ⟨rfl, rfl, List.getElem?_set_self (List.getElem?_eq_some_iff.1 hk).1⟩

/-- There is no live worker, and no start is under way. The last start failed. -/
structure Vacant (s : Supervisor Nat) (e : EngineError) : Prop where
  live : s.live = none
  inFlight : s.inFlight = false
  loading : s.loading = false
  initializing : s.initializing = false
  lastError : s.lastError = some e

theorem Orderly.failed_settled {f : StartFault} (h : d.Orderly) (hd : d.failed k f = some d') :
    Vacant d'.supervisor (.initialization f) ∧ d'.starts[k]? = some (.ended (.error (.initialization f))) := by
  obtain ⟨hk, rfl⟩ := failed_eq_some_iff.1 hd
  have hlt : k < d.starts.length := by
    rcases hk with hk | hk <;> exact (List.getElem?_eq_some_iff.1 hk).1
  have hlive := h.sound.alone (h.inFlight_of_underWay hk)
  exact ⟨⟨hlive, rfl, rfl, rfl, rfl⟩, List.getElem?_set_self hlt⟩

/-- A vacant supervisor stays as it is until a caller arrives. -/
theorem Orderly.vacant_step {x : Event} {e : EngineError} (h : d.Orderly) (hvacant : Vacant d.supervisor e)
    (hx : x ≠ .arrive) (hd : d.step x = some d') : d'.supervisor = d.supervisor := by
  have hidle := h.idle hvacant.inFlight
  cases x with
  | arrive => exact absurd rfl hx
  | installed j =>
    obtain ⟨hj, _⟩ := installed_eq_some_iff.1 hd
    exact absurd (.inl hj) (hidle j)
  | launched j =>
    obtain ⟨hj, _⟩ := launched_eq_some_iff.1 hd
    exact absurd (.inr hj) (hidle j)
  | failed j f =>
    obtain ⟨hj, _⟩ := failed_eq_some_iff.1 hd
    exact absurd hj (hidle j)
  | serve g =>
    obtain ⟨_, _, _, _, rfl⟩ := serve_eq_some_iff.1 hd
    rfl
  | forget w reason =>
    cases hd
    refine Supervisor.forget_of_ne ?_ reason
    rw [hvacant.live]
    exact nofun
  | take =>
    cases hd
    change { d.supervisor with live := none } = d.supervisor
    rw [← hvacant.live]

theorem Orderly.vacant_run {events : List Event} {e : EngineError} (h : d.Orderly)
    (hvacant : Vacant d.supervisor e) (hevents : .arrive ∉ events) (hd : d.run events = some d') :
    d'.supervisor = d.supervisor := by
  induction events generalizing d with
  | nil =>
    cases hd
    rfl
  | cons x events ih =>
    obtain ⟨d₁, hx, hrest⟩ := run_cons_eq_some_iff.1 hd
    have hne : x ≠ .arrive := fun heq => hevents (by simp [heq])
    have heq := h.vacant_step hvacant hne hx
    have hlater : .arrive ∉ events := fun hm => hevents (List.mem_cons_of_mem x hm)
    rw [ih (h.step hx) (heq ▸ hvacant) hlater hrest, heq]

/-- The next caller of a vacant supervisor sets off a new start, and waits for it. -/
theorem Vacant.exists_arrive {e : EngineError} (h : Vacant d.supervisor e) :
    ∃ d', d.arrive = some d' ∧ d'.starts = d.starts ++ [.installing] ∧
      d'.guests = d.guests ++ [.waiting d.starts.length] ∧ d'.UnderWay d.starts.length := by
  refine ⟨_, arrive_eq_some_iff.2 (.inr (.inr ⟨h.live, h.inFlight, rfl⟩)), rfl, rfl, .inl ?_⟩
  exact List.getElem?_concat_length

/-- What a supervisor says is what its starts are at: there is at most one start under way, and then no live worker.
It is in flight just if a start is under way, which is at one of two stages. -/
structure Exclusive (d : Lobby) : Prop where
  one : ∀ j k, d.UnderWay j → d.UnderWay k → j = k
  alone : ∀ k, d.UnderWay k → d.supervisor.live = none
  inFlight_iff : d.supervisor.inFlight = true ↔ ∃ k, d.UnderWay k
  loading_iff : d.supervisor.loading = true ↔ ∃ k : Nat, d.starts[k]? = some .installing
  initializing_iff : d.supervisor.initializing = true ↔ ∃ k : Nat, d.starts[k]? = some .launching
  flags : d.supervisor.inFlight = (d.supervisor.loading ^^ d.supervisor.initializing)
  idle : d.supervisor.inFlight = false → d.supervisor.loading = false ∧ d.supervisor.initializing = false
  clean : d.supervisor.live ≠ none → d.supervisor.lastError = none
  count : d.supervisor.starts = d.starts.length

theorem Orderly.exclusive (h : d.Orderly) : d.Exclusive := by
  have hinFlight : d.supervisor.inFlight = true → ∃ k, d.UnderWay k := by
    intro hflight
    have hsome : d.current?.isSome := by rw [← h.inFlight_eq, hflight]
    obtain ⟨k, hk⟩ := Option.isSome_iff_exists.1 hsome
    exact ⟨k, (h.underWay_iff k).2 hk⟩
  have hflags := h.sound.flags
  constructor
  · intro j k hj hk
    rw [h.underWay_iff] at hj hk
    rw [hj] at hk
    injection hk
  · intro k hk
    exact h.sound.alone (h.inFlight_of_underWay hk)
  · exact ⟨hinFlight, fun ⟨k, hk⟩ => h.inFlight_of_underWay hk⟩
  · refine ⟨fun hloading => ?_, fun ⟨k, hk⟩ => h.loading k hk⟩
    have hinitializing := h.sound.initializing_of_loading hloading
    obtain ⟨k, hk | hk⟩ := hinFlight (h.sound.inFlight_of_loading hloading)
    · exact ⟨k, hk⟩
    · rw [h.launching k hk] at hinitializing
      cases hinitializing
  · refine ⟨fun hinitializing => ?_, fun ⟨k, hk⟩ => h.launching k hk⟩
    have hflight : d.supervisor.inFlight = true := by
      cases hflight : d.supervisor.inFlight with
      | true => rfl
      | false =>
        rw [(h.sound.idle hflight).2] at hinitializing
        cases hinitializing
    obtain ⟨k, hk | hk⟩ := hinFlight hflight
    · rw [hflight, hinitializing, h.loading k hk] at hflags
      cases hflags
    · exact ⟨k, hk⟩
  · exact hflags
  · exact h.sound.idle
  · intro hlive
    exact h.sound.clean (.inr (Option.isSome_iff_ne_none.2 hlive))
  · exact h.starts_eq

/-- Whatever callers, starts, crash reports and shutdowns do, there is at most one start under way, and never beside a
live worker. Every caller is received at once. Who has set a start off or joined it gets its own result and no other, so
all of them get the same. A start that is ready makes the live worker. One that fails leaves none, and its error stands
until the next caller, who sets off a new start. -/
theorem starts_one_by_one {events : List Event} (h : initial.run events = some d) :
    d.Exclusive ∧
    (∃ d', d.arrive = some d' ∧ d.Received d') ∧
    (∀ g k, d.Holds g k → ∀ later d', d.run later = some d' → d'.Holds g k) ∧
    (∀ g k : Nat, d.guests[g]? = some (.waiting k) →
      ∃ later d' result, d.run later = some d' ∧ d'.guests[g]? = some (.served k result)) ∧
    (∀ (g k : Nat) (result : Except EngineError Nat), d.guests[g]? = some (.served k result) →
      d.starts[k]? = some (.ended result)) ∧
    (∀ k d', d.launched k = some d' → d'.supervisor.live = some d.workers ∧ d'.supervisor.inFlight = false ∧
      d'.starts[k]? = some (.ended (.ok d.workers))) ∧
    (∀ k f d', d.failed k f = some d' → Vacant d'.supervisor (.initialization f) ∧
      d'.starts[k]? = some (.ended (.error (.initialization f))) ∧
      ∀ later d₁, .arrive ∉ later → d'.run later = some d₁ → d₁.supervisor = d'.supervisor ∧
        ∃ d₂, d₁.arrive = some d₂ ∧ d₂.starts = d₁.starts ++ [.installing] ∧
          d₂.guests = d₁.guests ++ [.waiting d₁.starts.length] ∧ d₂.UnderWay d₁.starts.length) := by
  have horderly : d.Orderly := orderly_initial.run h
  refine ⟨horderly.exclusive, horderly.exists_arrive, ?_, ?_, horderly.served_eq, ?_, ?_⟩
  · intro g k hg later d' hlater
    exact hg.run hlater
  · intro g k hg
    exact horderly.exists_serve hg
  · intro k d' hd
    exact launched_settled hd
  · intro k f d' hd
    obtain ⟨hvacant, hended⟩ := horderly.failed_settled hd
    refine ⟨hvacant, hended, fun later d₁ hlater hd₁ => ?_⟩
    have horderly' := horderly.failed hd
    have hsame := horderly'.vacant_run hvacant hlater hd₁
    exact ⟨hsame, (hsame ▸ hvacant : Vacant d₁.supervisor _).exists_arrive⟩

/-- Two callers wait for a start that fails, and both get its error. A third one sets off the next start and gets its
worker. -/
theorem starts_one_by_one_failed_first :
    ∃ d, initial.run [.arrive, .arrive, .failed 0 .endedEarly, .arrive, .serve 1, .installed 1, .launched 1, .serve 0,
        .serve 2] = some d ∧
      d.guests = [.served 0 (.error (.initialization .endedEarly)), .served 0 (.error (.initialization .endedEarly)),
        .served 1 (.ok 0)] ∧
      d.Exclusive ∧ d.supervisor = ⟨some 0, false, false, false, none, 2⟩ := by
  have hrun : ∃ d, initial.run [.arrive, .arrive, .failed 0 .endedEarly, .arrive, .serve 1, .installed 1, .launched 1,
      .serve 0, .serve 2] = some d := ⟨_, rfl⟩
  obtain ⟨d, h⟩ := hrun
  obtain ⟨hexclusive, _⟩ := starts_one_by_one h
  cases h
  exact ⟨_, rfl, rfl, hexclusive, rfl⟩

end Lobby

end ScriptBench
