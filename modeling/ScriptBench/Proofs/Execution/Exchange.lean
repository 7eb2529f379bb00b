import ScriptBench.Execution.Run

/-! What a call of the engine is: no worker is live, or the live worker exchanges one request for one result. -/
namespace ScriptBench

namespace Engine

/-- A call exchanges its program for a result with the live worker, which is `w` afterwards. -/
structure Exchanged (e : Engine) (options : RunOptions) (source : String) (library? : Option String)
    (n : Nat) (result : Except EngineError Reply) (w : Worker) : Prop where
  live : e.supervisor.live = some n
  exec : ∃ before, e.worker? n = some before ∧
    before.exec options.timeout?.isSome source library? options.module = some (result, w)

end Engine

/-- The outcome of an exchange. -/
def Outcome.ofExchange (interrupted : Bool) : Except EngineError Reply → Outcome
  | .ok reply => .ofReply reply interrupted
  | .error f => .ofError f

namespace Engine

theorem run_eq_some_iff {e e' : Engine} {options : RunOptions} {source : String} {library? : Option String}
    {o : Outcome} :
    e.run options source library? = some (o, e') ↔
      (e.supervisor.live = none ∧ o = .notReady ∧ e' = e) ∨
      ∃ n result w, e.Exchanged options source library? n result w ∧
        o = .ofExchange w.interrupted result ∧ e' = (e.setWorker n w).afterCall n result := by
  constructor
  · intro h
    unfold run at h
    split at h
    · rename_i hlive
      cases h
      exact .inl ⟨hlive, rfl, rfl⟩
    · rename_i n hlive
      obtain ⟨before, hw, h⟩ := Option.bind_eq_some_iff.1 h
      obtain ⟨⟨result, w⟩, hexec, h⟩ := Option.bind_eq_some_iff.1 h
      cases h
      exact .inr ⟨n, result, w, ⟨hlive, before, hw, hexec⟩, rfl, rfl⟩
  · rintro (⟨hlive, rfl, rfl⟩ | ⟨n, result, w, ⟨hlive, before, hw, hexec⟩, rfl, rfl⟩)
    · simp [run, hlive]
    · simp only [run, hlive, runOn, hw, hexec, Option.bind_eq_bind, Option.bind_some]
      rfl

theorem Exchanged.unique {e : Engine} {options : RunOptions} {source : String} {library? : Option String}
    {n n' : Nat} {result result' : Except EngineError Reply} {w w' : Worker}
    (h : e.Exchanged options source library? n result w)
    (h' : e.Exchanged options source library? n' result' w') : n = n' ∧ result = result' ∧ w = w' := by
  obtain ⟨hl, b, hb, he⟩ := h
  obtain ⟨hl', b', hb', he'⟩ := h'
  have hn : n = n' := by
    rw [hl] at hl'
    injection hl'
  subst hn
  have hbb : b = b' := by
    rw [hb] at hb'
    injection hb'
  subst hbb
  rw [he] at he'
  cases he'
  exact ⟨rfl, rfl, rfl⟩

/-- An engine whose only worker is new and has the process. -/
def around (p : Process) : Engine :=
  ⟨⟨"python3", "/run", 1000, true⟩, ⟨some 0, false, false, false, none, 1⟩, [⟨p, "3.12", none, 1⟩], none,
    ⟨.empty, [], [], none, fun _ => p.interpreter, 1⟩⟩

theorem exists_exchanged_around {p : Process} {source module : String} {reply : Reply}
    (h : ((⟨p, "3.12", none, 1⟩ : Worker).exec false source none module).map
      (fun r => (r.1.toOption, r.2.interrupted)) = some (some reply, false)) :
    ∃ w, (around p).Exchanged ⟨none, module⟩ source none 0 (.ok reply) w ∧ w.interrupted = false := by
  obtain ⟨⟨result, w⟩, hexec, hresult⟩ := Option.map_eq_some_iff.1 h
  injection hresult with hreply hset
  cases result with
  | error f => cases hreply
  | ok reply =>
    injection hreply with hreply
    subst hreply
    exact ⟨w, ⟨rfl, _, rfl, hexec⟩, hset⟩

/-- What the outcome of a call says of its exchange. There is no failure just if the live worker gave a reply
that is well and has no exception, and the output is the one of the reply. -/
structure Reported (e : Engine) (options : RunOptions) (source : String) (library? : Option String)
    (o : Outcome) : Prop where
  success_iff : o.failure? = none ↔
    ∃ n reply w, e.Exchanged options source library? n (.ok reply) w ∧ reply.error? = none ∧ reply.ok = true
  stdout_eq : ∀ n reply w, e.Exchanged options source library? n (.ok reply) w → o.stdout = reply.stdout

end Engine

theorem Outcome.failure?_ofReply (r : Reply) (interrupted : Bool) :
    (Outcome.ofReply r interrupted).failure? = r.failure? interrupted := rfl

theorem Reply.failure?_eq_none_iff {r : Reply} {interrupted : Bool} :
    r.failure? interrupted = none ↔ r.error? = none ∧ r.ok = true := by
  unfold Reply.failure?
  split
  · rename_i x hx
    simp [hx]
  · rename_i hx
    split <;> simp_all

theorem Engine.reported_of_run {e e' : Engine} {options : RunOptions} {source : String}
    {library? : Option String} {o : Outcome} (h : e.run options source library? = some (o, e')) :
    e.Reported options source library? o := by
  rcases Engine.run_eq_some_iff.1 h with ⟨hlive, rfl, rfl⟩ | ⟨n, result, w, hx, rfl, rfl⟩
  · have hno : ∀ n result w, ¬e'.Exchanged options source library? n result w := by
      intro n result w hx
      have := hx.live
      simp [hlive] at this
    constructor
    · constructor
      · intro ho
        cases ho
      · rintro ⟨n, reply, w, hx, _⟩
        exact (hno _ _ _ hx).elim
    · intro n reply w hx
      exact (hno _ _ _ hx).elim
  · constructor
    · cases result with
      | ok reply =>
        rw [Outcome.ofExchange, Outcome.failure?_ofReply, Reply.failure?_eq_none_iff]
        constructor
        · rintro ⟨herror, hok⟩
          exact ⟨n, reply, w, hx, herror, hok⟩
        · rintro ⟨n', reply', w', hx', herror, hok⟩
          obtain ⟨_, hr, _⟩ := hx.unique hx'
          cases hr
          exact ⟨herror, hok⟩
      | error f =>
        constructor
        · intro ho
          cases ho
        · rintro ⟨n', reply', w', hx', _⟩
          obtain ⟨_, hr, _⟩ := hx.unique hx'
          cases hr
    · intro n' reply' w' hx'
      obtain ⟨_, rfl, _⟩ := hx.unique hx'
      rfl

end ScriptBench
