import ScriptBench.Engine.Supervisor

/-! What holds of a supervisor at any time. While a start is under way there is no live worker and no error, and it is
at just one of its two stages. -/
namespace ScriptBench

namespace Supervisor

variable {ρ : Type}

structure Sound (s : Supervisor ρ) : Prop where
  /-- A start that is under way is at just one of its two stages. -/
  flags : s.inFlight = (s.loading ^^ s.initializing)
  idle : s.inFlight = false → s.loading = false ∧ s.initializing = false
  alone : s.inFlight = true → s.live = none
  clean : s.inFlight = true ∨ s.live.isSome → s.lastError = none

variable {s : Supervisor ρ}

theorem sound_initial : (initial : Supervisor ρ).Sound := by
  constructor <;> simp [initial]

theorem Sound.inFlight_of_loading (h : s.Sound) (hloading : s.loading = true) : s.inFlight = true := by
  cases hflight : s.inFlight with
  | true => rfl
  | false =>
    have hidle := h.idle hflight
    rw [hidle.1] at hloading
    cases hloading

theorem Sound.initializing_of_loading (h : s.Sound) (hloading : s.loading = true) : s.initializing = false := by
  have hflight := h.inFlight_of_loading hloading
  have hflags := h.flags
  rw [hflight, hloading] at hflags
  simpa using hflags

theorem request_of_live {w : ρ} (h : s.live = some w) : s.request = (.ready w, s) := by
  simp only [request, h]

theorem request_of_inFlight (hlive : s.live = none) (h : s.inFlight = true) : s.request = (.joins, s) := by
  simp only [request, hlive, h, if_true]

theorem request_of_idle (hlive : s.live = none) (h : s.inFlight = false) :
    s.request = (.starts,
      { s with inFlight := true, loading := true, lastError := none, starts := s.starts + 1 }) := by
  simp only [request, hlive, h, Bool.false_eq_true, if_false]

theorem Sound.started (h : s.Sound) (hlive : s.live = none) (hflight : s.inFlight = false) :
    Sound { s with inFlight := true, loading := true, lastError := none, starts := s.starts + 1 } := by
  have hidle := h.idle hflight
  constructor
  · simp [hidle.2]
  · simp
  · simp [hlive]
  · simp

theorem Sound.installed (h : s.Sound) (hloading : s.loading = true) : s.installed.Sound := by
  have hflight := h.inFlight_of_loading hloading
  constructor
  · simp [Supervisor.installed, hflight]
  · simp [Supervisor.installed, hflight]
  · exact h.alone
  · exact h.clean

theorem Sound.finish (h : s.Sound) (hflight : s.inFlight = true) (result : Except EngineError ρ) :
    (s.finish result).Sound := by
  have hlive := h.alone hflight
  have hclean := h.clean (.inl hflight)
  cases result with
  | ok w => constructor <;> simp [Supervisor.finish, hclean]
  | error e => constructor <;> simp [Supervisor.finish, hlive]

theorem forget_of_live [DecidableEq ρ] {w : ρ} (h : s.live = some w) (reason : EngineError) :
    s.forget w reason = { s with live := none, lastError := some reason } := if_pos h

theorem forget_of_ne [DecidableEq ρ] {w : ρ} (h : s.live ≠ some w) (reason : EngineError) :
    s.forget w reason = s := if_neg h

theorem Sound.forget [DecidableEq ρ] (h : s.Sound) (w : ρ) (reason : EngineError) : (s.forget w reason).Sound := by
  by_cases hlive : s.live = some w
  · have hflight : s.inFlight = false := by
      refine Bool.eq_false_iff.2 fun hflight => ?_
      rw [h.alone hflight] at hlive
      cases hlive
    rw [forget_of_live hlive]
    exact ⟨h.flags, h.idle, fun _ => rfl, by simp [hflight]⟩
  · rw [forget_of_ne hlive]
    exact h

theorem Sound.take (h : s.Sound) : s.take.2.Sound := by
  refine ⟨h.flags, h.idle, fun _ => rfl, fun hclean => ?_⟩
  rcases hclean with hflight | hlive
  · exact h.clean (.inl hflight)
  · cases hlive

end Supervisor

end ScriptBench
