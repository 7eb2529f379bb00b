import ScriptBench.Proofs.Engine.Matching
import ScriptBench.Proofs.Execution.Exchange
import ScriptBench.Trace.Recording

/-! Kinds of failures: what causes each of them, and how an exception can take the name of one. -/
namespace ScriptBench

namespace FailureKind

/-- The kinds that only the engine itself gives to a failure. -/
def ofEngine : List FailureKind := [.environmentNotReady, .timeout, .crashed, .driverError]

theorem ofName_of_ofEngine {k : FailureKind} (h : k ∈ ofEngine) : ofName k.name = k := by
  simp only [ofEngine, List.mem_cons, List.not_mem_nil, or_false] at h
  rcases h with rfl | rfl | rfl | rfl <;> rfl

theorem ofName_of_not_ofEngine {name : String} (h : ∀ k ∈ ofEngine, name ≠ k.name) :
    ofName name = .exception name := by
  have hready : name ≠ "EnvironmentNotReady" := h .environmentNotReady (by decide)
  have htimeout : name ≠ "Timeout" := h .timeout (by decide)
  have hcrashed : name ≠ "RuntimeCrashed" := h .crashed (by decide)
  have hdriver : name ≠ "DriverError" := h .driverError (by decide)
  rw [ofName, if_neg hready, if_neg htimeout, if_neg hcrashed, if_neg hdriver]

end FailureKind

namespace Engine

section

variable (e : Engine) (options : RunOptions) (source : String) (library? : Option String)

/-- The reply to a call tells of an exception that is not the one of its interrupt. -/
def Raises (x : RaisedError) : Prop :=
  ∃ n reply w, e.Exchanged options source library? n (.ok reply) w ∧ reply.error? = some x ∧
    ¬(w.interrupted = true ∧ x.kind = interruptException)

/-- What has to be the case for a failure of a kind. -/
def Cause : FailureKind → Prop
  | .environmentNotReady => e.supervisor.live = none
  | .timeout => ∃ n reply w x, e.Exchanged options source library? n (.ok reply) w ∧
      w.interrupted = true ∧ reply.error? = some x ∧ x.kind = interruptException
  | .crashed => ∃ n c w, e.Exchanged options source library? n (.error (.crashed c)) w
  | .driverError => ∃ n message w, e.Exchanged options source library? n (.error (.rejected message)) w
  | .exception name =>
      (∃ x, e.Raises options source library? x ∧ x.kind = name) ∨
      ∃ n reply w, e.Exchanged options source library? n (.ok reply) w ∧ reply.error? = none ∧
        reply.ok = false ∧ name = "Error"

/-- A failure of each kind has its cause, and every exception that the program raises is reported as it is. -/
structure Unforged (o : Outcome) : Prop where
  caused : ∀ f, o.failure? = some f → e.Cause options source library? f.kind
  verbatim : ∀ x, e.Raises options source library? x →
    o.failure? = some ⟨.exception x.kind, x.message, x.traceback⟩

end

variable {e e' : Engine} {options : RunOptions} {source : String} {library? : Option String} {o : Outcome}

theorem Exchanged.error_cases {n : Nat} {f : EngineError} {w : Worker}
    (h : e.Exchanged options source library? n (.error f) w) :
    (∃ c, f = .crashed c) ∨ ∃ message, f = .rejected message := by
  obtain ⟨_, before, _, hexec⟩ := h
  obtain ⟨_, ⟨line, hline⟩ | ⟨c, hc⟩⟩ := Worker.exec_eq_some hexec
  · cases hline with
    | rejected hm => exact .inr ⟨_, rfl⟩
  · cases hc
    exact .inl ⟨c, rfl⟩

theorem eq_ofExchange_of_run (h : e.run options source library? = some (o, e')) {n : Nat}
    {result : Except EngineError Reply} {w : Worker} (hex : e.Exchanged options source library? n result w) :
    o = .ofExchange w.interrupted result := by
  rcases run_eq_some_iff.1 h with ⟨hlive, _⟩ | ⟨n', result', w', hex', ho, _⟩
  · have := hex.live
    rw [hlive] at this
    cases this
  · obtain ⟨_, rfl, rfl⟩ := hex.unique hex'
    exact ho

theorem raises_iff_of_exchanged {n : Nat} {reply : Reply} {w : Worker} {x : RaisedError}
    (hex : e.Exchanged options source library? n (.ok reply) w) (hset : w.interrupted = false) :
    e.Raises options source library? x ↔ reply.error? = some x := by
  constructor
  · intro ⟨n', reply', w', hex', hreply, _⟩
    obtain ⟨_, h, _⟩ := hex.unique hex'
    cases h
    exact hreply
  · intro hreply
    refine ⟨n, reply, w, hex, hreply, fun hown => ?_⟩
    rw [hset] at hown
    cases hown.1

/-- An exception that the program raises is reported under the kind that has its name. -/
theorem failure?_of_raises (h : e.run options source library? = some (o, e')) {x : RaisedError}
    (hx : e.Raises options source library? x) :
    o.failure? = some ⟨.ofName x.kind, x.message, x.traceback⟩ := by
  obtain ⟨n, reply, w, hex, hreply, hown⟩ := hx
  rw [eq_ofExchange_of_run h hex]
  change reply.failure? w.interrupted = _
  have hnot : ¬(w.interrupted && x.kind == interruptException) = true := by
    simpa using hown
  rw [Reply.failure?, hreply]
  simp only [Failure.ofRaised, if_neg hnot]

/-- A failure has the cause of its kind, or the program raised an exception with the name of the kind. -/
theorem cause_or_raises (h : e.run options source library? = some (o, e')) {f : Failure}
    (hf : o.failure? = some f) :
    e.Cause options source library? f.kind ∨
      f.kind ∈ FailureKind.ofEngine ∧ ∃ x, e.Raises options source library? x ∧ x.kind = f.kind.name := by
  rcases run_eq_some_iff.1 h with ⟨hlive, rfl, _⟩ | ⟨n, result, w, hex, rfl, _⟩
  · cases hf
    exact .inl hlive
  · cases result with
    | error g =>
      cases hf
      rcases hex.error_cases with ⟨c, rfl⟩ | ⟨message, rfl⟩
      · exact .inl ⟨n, c, w, hex⟩
      · exact .inl ⟨n, message, w, hex⟩
    | ok reply =>
      change reply.failure? w.interrupted = some f at hf
      unfold Reply.failure? at hf
      split at hf
      · rename_i x hreply
        injection hf with hf
        by_cases hown : w.interrupted = true ∧ x.kind = interruptException
        · have hkind : f.kind = .timeout := by
            rw [← hf, Failure.ofRaised, if_pos (by simpa using hown)]
            rfl
          rw [hkind]
          exact .inl ⟨n, reply, w, x, hex, hown.1, hreply, hown.2⟩
        · have hraises : e.Raises options source library? x := ⟨n, reply, w, hex, hreply, hown⟩
          have hkind : f.kind = .ofName x.kind := by
            rw [← hf, Failure.ofRaised, if_neg (by simpa using hown)]
          by_cases hname : ∃ k ∈ FailureKind.ofEngine, x.kind = k.name
          · obtain ⟨k, hk, hxk⟩ := hname
            have hfk : f.kind = k := by rw [hkind, hxk, FailureKind.ofName_of_ofEngine hk]
            rw [hfk]
            exact .inr ⟨hk, x, hraises, hxk⟩
          · rw [hkind, FailureKind.ofName_of_not_ofEngine fun k hk hxk => hname ⟨k, hk, hxk⟩]
            exact .inl (.inl ⟨x, hraises, rfl⟩)
      · rename_i hreply
        split at hf
        · cases hf
        · rename_i hok
          cases hf
          exact .inl (.inr ⟨n, reply, w, hex, hreply, by simpa using hok, rfl⟩)

theorem unforged_iff_of_run (h : e.run options source library? = some (o, e')) :
    e.Unforged options source library? o ↔
      ∀ x, e.Raises options source library? x → ∀ k ∈ FailureKind.ofEngine, x.kind ≠ k.name := by
  constructor
  · intro hu x hx k hk hxk
    have hverbatim := hu.verbatim x hx
    rw [failure?_of_raises h hx, hxk, FailureKind.ofName_of_ofEngine hk] at hverbatim
    injection hverbatim with hfailure
    injection hfailure with hkind
    rw [hkind] at hk
    simp [FailureKind.ofEngine] at hk
  · intro hnames
    constructor
    · intro f hf
      rcases cause_or_raises h hf with hcause | ⟨hk, x, hx, hxk⟩
      · exact hcause
      · exact (hnames x hx f.kind hk hxk).elim
    · intro x hx
      rw [failure?_of_raises h hx, FailureKind.ofName_of_not_ofEngine (hnames x hx)]

theorem exists_failure_of_cause (h : e.run options source library? = some (o, e')) {k : FailureKind}
    (hk : k ∈ FailureKind.ofEngine) (hcause : e.Cause options source library? k) :
    ∃ f, o.failure? = some f ∧ f.kind = k := by
  cases k with
  | environmentNotReady =>
    rw [run, show e.supervisor.live = none from hcause] at h
    cases h
    exact ⟨_, rfl, rfl⟩
  | timeout =>
    obtain ⟨n, reply, w, x, hex, hw, hreply, hx⟩ := hcause
    rw [eq_ofExchange_of_run h hex]
    refine ⟨.timeout, ?_, rfl⟩
    change reply.failure? w.interrupted = _
    rw [Reply.failure?, hreply]
    simp only [Failure.ofRaised, hw, hx, beq_self_eq_true, Bool.and_self, if_true]
  | crashed =>
    obtain ⟨n, c, w, hex⟩ := hcause
    rw [eq_ofExchange_of_run h hex]
    exact ⟨_, rfl, rfl⟩
  | driverError =>
    obtain ⟨n, message, w, hex⟩ := hcause
    rw [eq_ofExchange_of_run h hex]
    exact ⟨_, rfl, rfl⟩
  | exception name => simp [FailureKind.ofEngine] at hk

/-- A failure has a kind of the engine just if it has its cause or an exception of the program has its name. -/
theorem kind_iff_of_run (h : e.run options source library? = some (o, e')) {k : FailureKind}
    (hk : k ∈ FailureKind.ofEngine) :
    (∃ f, o.failure? = some f ∧ f.kind = k) ↔
      e.Cause options source library? k ∨ ∃ x, e.Raises options source library? x ∧ x.kind = k.name := by
  constructor
  · rintro ⟨f, hf, rfl⟩
    rcases cause_or_raises h hf with hcause | ⟨_, hx⟩
    · exact .inl hcause
    · exact .inr hx
  · rintro (hcause | ⟨x, hx, hxk⟩)
    · exact exists_failure_of_cause h hk hcause
    · exact ⟨_, failure?_of_raises h hx, by rw [hxk, FailureKind.ofName_of_ofEngine hk]⟩

theorem ofOutcome_eq_environmentNotReady_iff {o : Outcome} :
    Trace.ofOutcome o = .error .environmentNotReady ↔
      ∃ f, o.failure? = some f ∧ f.kind = .environmentNotReady := by
  unfold Trace.ofOutcome
  split
  · rename_i f hf
    by_cases hk : f.kind = .environmentNotReady
    · simp [hk, hf]
    · simp [hk, hf]
  · rename_i hf
    constructor
    · intro h
      cases hd : Markers.trace.decode Trace.read o.stdout with
      | error x =>
        rw [hd] at h
        cases h
      | ok t =>
        rw [hd] at h
        cases h
    · rintro ⟨f, hfailure, _⟩
      rw [hf] at hfailure
      cases hfailure

theorem trace_eq_environmentNotReady_iff {options : TraceOptions} {r : Except TraceError Trace}
    (h : e.trace options source library? = some (r, e')) :
    r = .error .environmentNotReady ↔
      e.Cause options.run (Script.traceScript source options.maxSteps) library? .environmentNotReady ∨
      ∃ x, e.Raises options.run (Script.traceScript source options.maxSteps) library? x ∧
        x.kind = FailureKind.environmentNotReady.name := by
  obtain ⟨⟨o, e₁⟩, hrun, h⟩ := Option.map_eq_some_iff.1 h
  cases h
  rw [ofOutcome_eq_environmentNotReady_iff]
  exact kind_iff_of_run hrun (by decide)

/-- The kinds of a call are its own just if no exception of the program has the name of a kind of the engine.
A trace says that there was no worker just if there was none, or the program raised an exception of that name. -/
theorem kinds_unforged_iff (e : Engine) (library? : Option String) :
    (∀ options source o e', e.run options source library? = some (o, e') →
      (∀ x, e.Raises options source library? x →
        o.failure? = some ⟨.ofName x.kind, x.message, x.traceback⟩) ∧
      (e.Unforged options source library? o ↔
        ∀ x, e.Raises options source library? x → ∀ k ∈ FailureKind.ofEngine, x.kind ≠ k.name)) ∧
    (∀ (options : TraceOptions) source r e', e.trace options source library? = some (r, e') →
      (r = .error .environmentNotReady ↔
        e.supervisor.live = none ∨
        ∃ x, e.Raises options.run (Script.traceScript source options.maxSteps) library? x ∧
          x.kind = "EnvironmentNotReady")) := by
  refine ⟨fun options source o e' h => ⟨fun x hx => failure?_of_raises h hx, unforged_iff_of_run h⟩, ?_⟩
  intro options source r e' h
  exact trace_eq_environmentNotReady_iff h

/-- A program that raises an exception with a usual name. -/
theorem kinds_unforged_iff_value_error :
    ∃ (e : Engine) (o : Outcome) (e' : Engine), e.run ⟨none, "lib"⟩ "int('x')" none = some (o, e') ∧
      e.Unforged ⟨none, "lib"⟩ "int('x')" none o ∧ o.failure? = some ⟨.exception "ValueError", "", ""⟩ := by
  let x : RaisedError := ⟨"ValueError", "", ""⟩
  let error := "\x7b\"kind\":\"ValueError\"\x7d"
  let line := "\x7b\"type\":\"result\",\"id\":1,\"ok\":false,\"error\":" ++ error ++ "\x7d\n"
  have hexec : ((⟨.printed line, "3.12", none, 1⟩ : Worker).exec false "int('x')" none "lib").map
      (fun r => (r.1.toOption, r.2.interrupted)) = some (some ⟨some 1, false, "", "", none, some x⟩, false) := by
    decide +kernel
  obtain ⟨w, hex, hset⟩ := exists_exchanged_around hexec
  have hrun := run_eq_some_iff.2 (.inr ⟨0, _, w, hex, rfl, rfl⟩)
  have hx := (raises_iff_of_exchanged hex hset).2 rfl
  obtain ⟨_, hiff⟩ := (kinds_unforged_iff (around (.printed line)) none).1 _ _ _ _ hrun
  have hunforged := hiff.2 (by
    intro x' hx' k hk
    cases (raises_iff_of_exchanged hex hset).1 hx'
    revert k
    decide)
  exact ⟨_, _, _, hrun, hunforged, hunforged.verbatim x hx⟩

/-- A program that raises an exception of its own named like a timeout, in a call without a time budget. -/
theorem timeout_forged :
    ¬∀ (e : Engine) options source library? o e', e.run options source library? = some (o, e') →
      e.Unforged options source library? o := by
  intro hall
  let x : RaisedError := ⟨"Timeout", "", ""⟩
  let error := "\x7b\"kind\":\"Timeout\"\x7d"
  let line := "\x7b\"type\":\"result\",\"id\":1,\"ok\":false,\"error\":" ++ error ++ "\x7d\n"
  have hexec : ((⟨.printed line, "3.12", none, 1⟩ : Worker).exec false "f()" none "lib").map
      (fun r => (r.1.toOption, r.2.interrupted)) = some (some ⟨some 1, false, "", "", none, some x⟩, false) := by
    decide +kernel
  obtain ⟨w, hex, hset⟩ := exists_exchanged_around hexec
  have hrun := run_eq_some_iff.2 (.inr ⟨0, _, w, hex, rfl, rfl⟩)
  have hx := (raises_iff_of_exchanged hex hset).2 rfl
  exact (unforged_iff_of_run hrun).1 (hall _ _ _ _ _ _ hrun) x hx .timeout (by decide) rfl

end Engine

end ScriptBench
