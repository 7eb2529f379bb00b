import ScriptBench.Proofs.Engine.Matching
import ScriptBench.Proofs.Execution.Exchange

/-! The contract of a call. An outcome is a success just if it has no failure. If a reply was received it has the
streams of the reply, and else it has nothing but the failure that kept the reply away. -/
namespace ScriptBench

namespace Outcome

/-- An outcome is a success just if it has no failure, and only a success has a value. -/
structure Consistent (o : Outcome) : Prop where
  success_iff : o.success = true ↔ o.failure? = none
  success_of_value : ∀ value, o.value? = some value → o.success = true

/-- What an outcome has of a reply, also of one that tells of a failure. -/
structure Shows (o : Outcome) (r : Reply) : Prop where
  stdout : o.stdout = r.stdout
  stderr : o.stderr = r.stderr
  value : o.success = true → o.value? = r.value?
  failure_of_error : ∀ x, r.error? = some x → o.success = false
  failure_of_not_ok : r.ok = false → o.success = false
  success : r.error? = none → r.ok = true → o.success = true

/-- An outcome has nothing but a failure of a kind. -/
structure Lacks (o : Outcome) (k : FailureKind) : Prop where
  success : o.success = false
  stdout : o.stdout = ""
  stderr : o.stderr = ""
  failure : ∃ f, o.failure? = some f ∧ f.kind = k

/-- What an outcome says of what was received: nothing since there was no worker, a crash, a rejection, or a reply. -/
inductive Follows (o : Outcome) : Option (Except EngineError Reply) → Prop
  | notReady (h : o.Lacks .environmentNotReady) : Follows o none
  | crashed (c : CrashCause) (h : o.Lacks .crashed) : Follows o (some (.error (.crashed c)))
  | rejected (message : String) (h : o.Lacks .driverError) : Follows o (some (.error (.rejected message)))
  | replied (r : Reply) (h : o.Shows r) : Follows o (some (.ok r))

theorem consistent_failed (f : Failure) : (failed f).Consistent where
  success_iff := ⟨nofun, nofun⟩
  success_of_value := nofun

theorem lacks_ofError (e : EngineError) : (ofError e).Lacks e.failureKind :=
  ⟨rfl, rfl, rfl, _, rfl, rfl⟩

theorem success_ofReply_iff {r : Reply} {interrupted : Bool} :
    (ofReply r interrupted).success = true ↔ r.error? = none ∧ r.ok = true := by
  rw [← @Reply.failure?_eq_none_iff r interrupted]
  exact Option.isNone_iff_eq_none

theorem consistent_ofReply (r : Reply) (interrupted : Bool) : (ofReply r interrupted).Consistent where
  success_iff := by
    rw [success_ofReply_iff, failure?_ofReply, Reply.failure?_eq_none_iff]
  success_of_value value h := by
    change (if (r.failure? interrupted).isNone = true then r.value? else none) = some value at h
    split at h
    · assumption
    · cases h

theorem shows_ofReply (r : Reply) (interrupted : Bool) : (ofReply r interrupted).Shows r where
  stdout := rfl
  stderr := rfl
  value := by
    intro h
    change (if (r.failure? interrupted).isNone = true then r.value? else none) = r.value?
    exact if_pos h
  failure_of_error := by
    intro x hx
    rw [← Bool.not_eq_true, success_ofReply_iff, hx]
    exact fun h => nomatch h.1
  failure_of_not_ok := by
    intro hok
    rw [← Bool.not_eq_true, success_ofReply_iff, hok]
    exact fun h => nomatch h.2
  success := fun herror hok => success_ofReply_iff.2 ⟨herror, hok⟩

end Outcome

namespace Engine

/-- What a call receives that keeps to the worker that was live when it came, if there was one. A reply and a rejection
are read from a line that answers the request of this call. -/
inductive Receives (e : Engine) (options : RunOptions) (source : String) (library? : Option String) :
    Option Nat → Option (Except EngineError Reply) → Prop
  | nothing : Receives e options source library? none none
  | crash {n : Nat} {before w : Worker} {c : CrashCause} (hworker : e.worker? n = some before)
      (hexec : before.exec options.timeout?.isSome source library? options.module = some (.error (.crashed c), w)) :
      Receives e options source library? (some n) (some (.error (.crashed c)))
  | answer {n : Nat} {before w : Worker} {a : Except EngineError Reply} (line : String)
      (hworker : e.worker? n = some before)
      (hexec : before.exec options.timeout?.isSome source library? options.module = some (a, w))
      (hline : Answers before.nextId line a) : Receives e options source library? (some n) (some a)

variable {e e' : Engine} {options : RunOptions} {source : String} {library? : Option String} {n : Nat} {o : Outcome}

theorem receives_of_exec {before w : Worker} {a : Except EngineError Reply} (hworker : e.worker? n = some before)
    (hexec : before.exec options.timeout?.isSome source library? options.module = some (a, w)) :
    e.Receives options source library? (some n) (some a) := by
  obtain ⟨_, ⟨line, hline⟩ | ⟨c, rfl⟩⟩ := Worker.exec_eq_some hexec
  · exact .answer line hworker hexec hline
  · exact .crash hworker hexec

theorem Receives.exists_exec {live? : Option Nat} {a : Except EngineError Reply}
    (h : e.Receives options source library? live? (some a)) :
    ∃ n before w, live? = some n ∧ e.worker? n = some before ∧
      before.exec options.timeout?.isSome source library? options.module = some (a, w) := by
  cases h with
  | crash hworker hexec => exact ⟨_, _, _, rfl, hworker, hexec⟩
  | answer line hworker hexec => exact ⟨_, _, _, rfl, hworker, hexec⟩

theorem follows_of_receives {live? : Option Nat} {a : Except EngineError Reply} (interrupted : Bool)
    (h : e.Receives options source library? live? (some a)) :
    (Outcome.ofExchange interrupted a).Consistent ∧ (Outcome.ofExchange interrupted a).Follows (some a) := by
  cases h with
  | crash => exact ⟨Outcome.consistent_failed _, .crashed _ (Outcome.lacks_ofError (.crashed _))⟩
  | answer line hworker hexec hline =>
    cases hline with
    | result => exact ⟨Outcome.consistent_ofReply _ _, .replied _ (Outcome.shows_ofReply _ _)⟩
    | rejected => exact ⟨Outcome.consistent_failed _, .rejected _ (Outcome.lacks_ofError (.rejected _))⟩

theorem runOn_eq_some_iff :
    e.runOn n options source library? = some (o, e') ↔
      ∃ before a w, e.worker? n = some before ∧
        before.exec options.timeout?.isSome source library? options.module = some (a, w) ∧
        o = .ofExchange w.interrupted a ∧ e' = (e.setWorker n w).afterCall n a := by
  constructor
  · intro h
    obtain ⟨before, hworker, h⟩ := Option.bind_eq_some_iff.1 h
    obtain ⟨⟨a, w⟩, hexec, h⟩ := Option.bind_eq_some_iff.1 h
    cases h
    exact ⟨before, a, w, hworker, hexec, rfl, rfl⟩
  · rintro ⟨before, a, w, hworker, hexec, rfl, rfl⟩
    simp only [runOn, hworker, hexec, Option.bind_eq_bind, Option.bind_some]
    rfl

theorem contract_of_runOn (h : e.runOn n options source library? = some (o, e')) :
    o.Consistent ∧ ∃ received, e.Receives options source library? (some n) received ∧ o.Follows received := by
  obtain ⟨before, a, w, hworker, hexec, rfl, _⟩ := runOn_eq_some_iff.1 h
  have hreceives : e.Receives options source library? (some n) (some a) := receives_of_exec hworker hexec
  obtain ⟨hconsistent, hfollows⟩ := follows_of_receives w.interrupted hreceives
  exact ⟨hconsistent, some a, hreceives, hfollows⟩

theorem Receives.exists_runOn {received : Option (Except EngineError Reply)}
    (h : e.Receives options source library? (some n) received) :
    ∃ o e', e.runOn n options source library? = some (o, e') := by
  cases received with
  | none => cases h
  | some a =>
    obtain ⟨_, before, w, hn, hworker, hexec⟩ := h.exists_exec
    cases hn
    exact ⟨_, _, runOn_eq_some_iff.2 ⟨before, a, w, hworker, hexec, rfl, rfl⟩⟩

/-- The contract of a call, whatever the state of the engine is and whatever the interpreter does. There is an outcome
just if the call comes to an end. It is consistent, and it follows from what was received: it has the streams of a
reply, and a success has its value; a reply that is not well or has an exception is a failure; and without a reply it
has nothing but a failure of the kind of what happened. The same holds of a call that waited until its worker was free,
whichever worker is live by then. -/
theorem outcome_follows_received (e : Engine) (options : RunOptions) (source : String) (library? : Option String) :
    ((∃ o e', e.run options source library? = some (o, e')) ↔
      ∃ received, e.Receives options source library? e.supervisor.live received) ∧
    (∀ o e', e.run options source library? = some (o, e') → o.Consistent ∧
      ∃ received, e.Receives options source library? e.supervisor.live received ∧ o.Follows received) ∧
    (∀ n, ((∃ o e', e.runOn n options source library? = some (o, e')) ↔
        ∃ received, e.Receives options source library? (some n) received) ∧
      ∀ o e', e.runOn n options source library? = some (o, e') → o.Consistent ∧
        ∃ received, e.Receives options source library? (some n) received ∧ o.Follows received) := by
  have hon : ∀ n, ((∃ o e', e.runOn n options source library? = some (o, e')) ↔
      ∃ received, e.Receives options source library? (some n) received) ∧
      ∀ o e', e.runOn n options source library? = some (o, e') → o.Consistent ∧
        ∃ received, e.Receives options source library? (some n) received ∧ o.Follows received := by
    intro n
    refine ⟨⟨?_, ?_⟩, fun o e' h => contract_of_runOn h⟩
    · rintro ⟨o, e', h⟩
      obtain ⟨_, received, hreceives, _⟩ := contract_of_runOn h
      exact ⟨received, hreceives⟩
    · rintro ⟨received, hreceives⟩
      exact hreceives.exists_runOn
  refine ⟨?_, ?_, hon⟩
  · cases hlive : e.supervisor.live with
    | none =>
      simp only [run, hlive]
      exact ⟨fun _ => ⟨none, .nothing⟩, fun _ => ⟨_, _, rfl⟩⟩
    | some n =>
      simp only [run, hlive]
      exact (hon n).1
  · intro o e' h
    cases hlive : e.supervisor.live with
    | none =>
      simp only [run, hlive] at h
      cases h
      exact ⟨Outcome.consistent_failed _, none, .nothing, .notReady (Outcome.lacks_ofError .notReady)⟩
    | some n =>
      simp only [run, hlive] at h
      exact (hon n).2 o e' h

/-- A reply that says that all is well and has a value, and yet tells of an exception. The call has failed, and what
was printed until then is there. -/
theorem outcome_follows_received_odd_reply :
    ∃ (e : Engine) (o : Outcome) (e' : Engine), e.run ⟨none, "lib"⟩ "f()" none = some (o, e') ∧
      o.Consistent ∧ o = ⟨false, "A\n", "B", none, some ⟨.exception "E", "", ""⟩⟩ ∧
      ∃ received, e.Receives ⟨none, "lib"⟩ "f()" none (some 0) received ∧ o.Follows received := by
  let reply : Reply := ⟨some 1, true, "A\n", "B", some "3", some ⟨"E", "", ""⟩⟩
  let line := "\x7b\"type\":\"result\",\"id\":1,\"ok\":true,\"stdout\":\"A\\n\",\"stderr\":\"B\",\"value\":\"3\"," ++
    "\"error\":\x7b\"kind\":\"E\"\x7d\x7d\n"
  have hexec : ((⟨.printed line, "3.12", none, 1⟩ : Worker).exec false "f()" none "lib").map
      (fun r => (r.1.toOption, r.2.interrupted)) = some (some reply, false) := by
    decide +kernel
  obtain ⟨w, hx, hset⟩ := exists_exchanged_around hexec
  have hrun := run_eq_some_iff.2 (.inr ⟨0, _, w, hx, rfl, rfl⟩)
  obtain ⟨hconsistent, hreceived⟩ :=
    (outcome_follows_received (around (.printed line)) ⟨none, "lib"⟩ "f()" none).2.1 _ _ hrun
  refine ⟨_, _, _, hrun, hconsistent, ?_, hreceived⟩
  rw [hset]
  rfl

end Engine

end ScriptBench
