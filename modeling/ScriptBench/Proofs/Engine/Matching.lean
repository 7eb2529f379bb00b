import ScriptBench.Engine.Worker
import ScriptBench.Proofs.Engine.Queue

/-! Requests and their answers: which line answers a request, and that no answer goes to another one. -/
namespace ScriptBench

open Text

/-- A line answers a request if it is a result with exactly its number, or a rejection. -/
inductive Answers (id : Nat) (line : String) : Except EngineError Reply → Prop where
  | result {r : Reply} (h : Message.ofLine? line = some (.result r)) (hid : r.id? = some id) :
    Answers id line (.ok r)
  | rejected {message : String} (h : Message.ofLine? line = some (.invalid message)) :
    Answers id line (.error (.rejected message))

theorem answerOfLine?_eq_some_iff {id : Nat} {line : String} {a : Except EngineError Reply} :
    answerOfLine? id line = some a ↔ Answers id line a := by
  constructor
  · intro h
    obtain ⟨m, hm, h⟩ := Option.bind_eq_some_iff.1 h
    cases m with
    | ready version pid => cases h
    | result r =>
      rw [Message.answers?] at h
      split at h
      · rename_i hid
        cases h
        exact .result hm hid
      · cases h
    | invalid message =>
      cases h
      exact .rejected hm
  · rintro (⟨hm, hid⟩ | ⟨hm⟩)
    · simp [answerOfLine?, hm, Message.answers?, hid]
    · simp [answerOfLine?, hm, Message.answers?]

theorem answerOfLine?_eq_none_iff {id : Nat} {line : String} :
    answerOfLine? id line = none ↔ ∀ a, ¬Answers id line a := by
  rw [Option.eq_none_iff_forall_ne_some]
  exact forall_congr' fun a => not_congr answerOfLine?_eq_some_iff

/-! Listening -/

section

variable {id : Nat} {outputEnd? : Option (Option ExitStatus)} {bytes rest : List UInt8} {line : String}

theorem listen_of_answer {a : Except EngineError Reply} (h : hear outputEnd? bytes = (.line line, rest))
    (ha : answerOfLine? id line = some a) : listen id outputEnd? bytes = (.answered a, rest) := by
  rw [listen]
  split <;> simp_all

theorem listen_of_other (h : hear outputEnd? bytes = (.line line, rest)) (ha : answerOfLine? id line = none) :
    listen id outputEnd? bytes = listen id outputEnd? rest := by
  rw [listen]
  split <;> simp_all

theorem listen_of_ended {status? : Option ExitStatus} (h : hear outputEnd? bytes = (.ended status?, rest)) :
    listen id outputEnd? bytes = (.answered (.error (.crashed (.ofEnd status?))), rest) := by
  rw [listen]
  split <;> simp_all

/-- What is listened to comes from a line that answers the request, unless the interpreter went away. -/
theorem answers_or_crashed_of_listen {a : Except EngineError Reply}
    (h : listen id outputEnd? bytes = (.answered a, rest)) :
    (∃ line, Answers id line a) ∨ ∃ c, a = .error (.crashed c) := by
  fun_induction listen id outputEnd? bytes with
  | case1 => cases h
  | case2 bytes f behind hhear =>
    cases h
    exact .inr ⟨_, rfl⟩
  | case3 bytes status? behind hhear =>
    cases h
    exact .inr ⟨_, rfl⟩
  | case4 bytes text behind hhear a ha =>
    cases h
    exact .inl ⟨text, answerOfLine?_eq_some_iff.1 ha⟩
  | case5 bytes text behind hhear ha ih => exact ih h

end

section

variable {id : Nat} {text : String} {status? : Option ExitStatus}

/-- The first line that answers is the answer, and the lines behind it stay queued. -/
theorem listen_of_first {before later : List String} {line : String} {a : Except EngineError Reply}
    (hlines : queuedLines text = before ++ line :: later) (hbefore : ∀ l ∈ before, ∀ b, ¬Answers id l b)
    (ha : Answers id line a) :
    ∃ rest, queuedLines rest = later ∧
      listen id (some status?) (encodeUtf8 text) = (.answered a, encodeUtf8 rest) := by
  induction before generalizing text with
  | nil =>
    obtain ⟨rest, hrest, hhear⟩ := hear_of_queuedLines_eq_cons hlines status?
    exact ⟨rest, hrest, listen_of_answer hhear (answerOfLine?_eq_some_iff.2 ha)⟩
  | cons l before ih =>
    obtain ⟨rest, hrest, hhear⟩ := hear_of_queuedLines_eq_cons hlines status?
    have hl : answerOfLine? id l = none := answerOfLine?_eq_none_iff.2 (hbefore l (by simp))
    obtain ⟨rest', hrest', hlisten⟩ := ih hrest fun m hm => hbefore m (List.mem_cons_of_mem l hm)
    refine ⟨rest', hrest', ?_⟩
    rw [listen_of_other hhear hl, hlisten]

/-- A queue without an answer is read to its end. -/
theorem listen_of_none (h : ∀ l ∈ queuedLines text, ∀ b, ¬Answers id l b) :
    listen id (some status?) (encodeUtf8 text) = (.answered (.error (.crashed (.ofEnd status?))), []) := by
  generalize hlines : queuedLines text = waiting at h
  induction waiting generalizing text with
  | nil => exact listen_of_ended (hear_of_queuedLines_eq_nil hlines status?)
  | cons l waiting ih =>
    obtain ⟨rest, hrest, hhear⟩ := hear_of_queuedLines_eq_cons hlines status?
    have hl : answerOfLine? id l = none := answerOfLine?_eq_none_iff.2 (h l (by simp))
    rw [listen_of_other hhear hl]
    exact ih hrest fun m hm => h m (List.mem_cons_of_mem l hm)

theorem listen_fst_eq (text : String) :
    (listen id (some status?) (encodeUtf8 text)).1 =
      .answered (((queuedLines text).findSome? (answerOfLine? id)).getD (.error (.crashed (.ofEnd status?)))) := by
  cases hfind : (queuedLines text).findSome? (answerOfLine? id) with
  | none =>
    rw [listen_of_none fun l hl => answerOfLine?_eq_none_iff.1 (List.findSome?_eq_none_iff.1 hfind l hl)]
    rfl
  | some a =>
    obtain ⟨before, line, later, hlines, ha, hbefore⟩ := List.findSome?_eq_some_iff.1 hfind
    obtain ⟨rest, _, hlisten⟩ := @listen_of_first id text status? before later line a hlines
      (fun l hl => answerOfLine?_eq_none_iff.1 (hbefore l hl)) (answerOfLine?_eq_some_iff.1 ha)
    rw [hlisten]
    rfl

end

/-- Some lines that answer something else are taken out of a queue. -/
inductive Thinned (id : Nat) : List String → List String → Prop where
  | nil : Thinned id [] []
  | keep {line : String} {queue thin : List String} (h : Thinned id queue thin) :
    Thinned id (line :: queue) (line :: thin)
  | drop {line : String} {queue thin : List String} (hline : ∀ a, ¬Answers id line a)
    (h : Thinned id queue thin) : Thinned id (line :: queue) thin

theorem Thinned.findSome?_eq {id : Nat} {queue thin : List String} (h : Thinned id queue thin) :
    queue.findSome? (answerOfLine? id) = thin.findSome? (answerOfLine? id) := by
  induction h with
  | nil => rfl
  | keep h ih => rw [List.findSome?_cons, List.findSome?_cons, ih]
  | drop hline h ih => rw [List.findSome?_cons, answerOfLine?_eq_none_iff.2 hline, ih]

namespace Worker

/-- The request that a worker writes for a call. -/
def request (w : Worker) (code : String) (library? : Option String) (module : String) : Request :=
  ⟨w.nextId, code, library?, module⟩

/-- A request is written. What is queued then is a text, and the output ends behind it. -/
structure Written (w : Worker) (r : Request) (p : Process) (text : String) (status? : Option ExitStatus) :
    Prop where
  sent : w.process.send r.line = .ok p
  unread : p.unread = encodeUtf8 text
  outputEnd : p.outputEnd? = some status?

/-- A worker behind a call, with what is queued then. -/
def behind (w : Worker) (p : Process) (rest : String) : Worker :=
  { w.begin.2 with process := { p with unread := encodeUtf8 rest } }

section

variable {w : Worker} {timed : Bool} {code : String} {library? : Option String} {module : String}

theorem send_of_ok {r : Request} {p : Process} (h : w.process.send r.line = .ok p) :
    w.send r = .ok { w with process := p } := by
  rw [send, h]

theorem send_of_error {r : Request} {e : OsError} {p : Process} (h : w.process.send r.line = .error (e, p)) :
    w.send r = .error (.crashed (.notWritten e), { w with process := p }) := by
  rw [send, h]

theorem await_of_answered {armed : Bool} {id : Nat} {a : Except EngineError Reply} {p : Process}
    (h : w.process.listen id = (.answered a, p)) : w.await armed id = some (a, { w with process := p }) := by
  have hlisten : w.listen id = (.answered a, { w with process := p }) := by
    rw [listen, h]
  rw [await, hlisten]

theorem exec_of_not_sent {e : OsError} {p : Process}
    (h : w.process.send (w.request code library? module).line = .error (e, p)) :
    w.exec timed code library? module =
      some (.error (.crashed (.notWritten e)), { w.begin.2 with process := p }) := by
  have hsend : w.begin.2.send ⟨w.begin.1, code, library?, module⟩ =
      .error (.crashed (.notWritten e), { w.begin.2 with process := p }) := send_of_error h
  unfold exec
  dsimp only
  rw [hsend]

theorem exec_of_sent {p : Process} (h : w.process.send (w.request code library? module).line = .ok p) :
    w.exec timed code library? module =
      ({ w.begin.2 with process := p } : Worker).await (timed && w.begin.2.cell?.isSome) w.nextId := by
  have hsend : w.begin.2.send ⟨w.begin.1, code, library?, module⟩ = .ok { w.begin.2 with process := p } :=
    send_of_ok h
  unfold exec
  dsimp only
  rw [hsend]
  rfl

theorem exec_of_written {p : Process} {text : String} {status? : Option ExitStatus}
    (h : w.Written (w.request code library? module) p text status?) {a : Except EngineError Reply}
    {rest : List UInt8}
    (hlisten : ScriptBench.listen w.nextId (some status?) (encodeUtf8 text) = (.answered a, rest)) :
    w.exec timed code library? module =
      some (a, { w.begin.2 with process := { p with unread := rest } }) := by
  have hpipe : p.listen w.nextId = (.answered a, { p with unread := rest }) := by
    rw [Process.listen, h.outputEnd, h.unread, hlisten]
  rw [exec_of_sent h.sent]
  exact await_of_answered hpipe

theorem nextId_of_listen {id : Nat} {l : Listened} {w' : Worker} (h : w.listen id = (l, w')) :
    w'.nextId = w.nextId := by
  cases h
  rfl

theorem await_eq_some {armed : Bool} {id : Nat} {a : Except EngineError Reply} {w' : Worker}
    (h : w.await armed id = some (a, w')) :
    ∃ v : Worker, v.nextId = w.nextId ∧ v.listen id = (.answered a, w') := by
  unfold await at h
  split at h
  · rename_i b w₁ hlisten
    cases h
    exact ⟨w, rfl, hlisten⟩
  · rename_i w₁ hlisten
    split at h
    · split at h
      · rename_i b w₂ hfired
        cases h
        have hsilent : w₁.nextId = w.nextId := nextId_of_listen hlisten
        exact ⟨w₁.fire, hsilent, hfired⟩
      · cases h
    · cases h

/-- Each call takes the next number. Its result comes from a line that answers that number, unless the
interpreter went away. -/
theorem exec_eq_some {a : Except EngineError Reply} {w' : Worker}
    (h : w.exec timed code library? module = some (a, w')) :
    w'.nextId = w.nextId + 1 ∧ ((∃ line, Answers w.nextId line a) ∨ ∃ c, a = .error (.crashed c)) := by
  unfold exec at h
  dsimp only at h
  split at h
  · rename_i e w₁ hsend
    cases h
    unfold send at hsend
    split at hsend
    · cases hsend
    · cases hsend
      exact ⟨rfl, .inr ⟨_, rfl⟩⟩
  · rename_i w₁ hsend
    have hnext : w₁.nextId = w.nextId + 1 := by
      unfold send at hsend
      split at hsend
      · cases hsend
        rfl
      · cases hsend
    obtain ⟨v, hv, hlisten⟩ := await_eq_some h
    refine ⟨(nextId_of_listen hlisten).trans (hv.trans hnext), ?_⟩
    have hfst : (ScriptBench.listen w.nextId v.process.outputEnd? v.process.unread).1 = .answered a :=
      congrArg Prod.fst hlisten
    exact answers_or_crashed_of_listen (Prod.ext hfst rfl)

end

/-- Calls to one worker, one behind the other, and their results. Between two calls its process may be left
with anything that is queued. -/
inductive Serves : Worker → List (Except EngineError Reply) → Worker → Prop where
  | done {w : Worker} : Serves w [] w
  | call {w w₁ w₂ : Worker} {p : Process} {timed : Bool} {code : String} {library? : Option String}
    {module : String} {a : Except EngineError Reply} {as : List (Except EngineError Reply)}
    (h : exec { w with process := p } timed code library? module = some (a, w₁)) (hs : Serves w₁ as w₂) :
    Serves w (a :: as) w₂

theorem Serves.exists_answers {w w' : Worker} {as : List (Except EngineError Reply)} (h : Serves w as w')
    {i : Nat} {r : Reply} (hr : as[i]? = some (.ok r)) : ∃ line, Answers (w.nextId + i) line (.ok r) := by
  induction h generalizing i with
  | done => cases hr
  | @call w w₁ w₂ p timed code library? module a as hexec hs ih =>
    obtain ⟨hnext, hresult⟩ := exec_eq_some hexec
    cases i with
    | zero =>
      cases hr
      rcases hresult with hline | ⟨c, hc⟩
      · exact hline
      · cases hc
    | succ i =>
      -- the calls behind the first one count from the next number
      have hi : w.nextId + (i + 1) = w₁.nextId + i := by
        rw [hnext]
        show w.nextId + (i + 1) = w.nextId + 1 + i
        omega
      rw [hi]
      exact ih hr

theorem Serves.id_and_line {w w' : Worker} {as : List (Except EngineError Reply)} (h : Serves w as w') {i : Nat}
    {r : Reply} (hr : as[i]? = some (.ok r)) :
    r.id? = some (w.nextId + i) ∧ ∃ line, Message.ofLine? line = some (.result r) := by
  obtain ⟨line, hline⟩ := h.exists_answers hr
  cases hline with
  | result hm hid => exact ⟨hid, line, hm⟩

/-- A call gives the first line that answers its own request and leaves the lines behind it queued. Lines that
answer something else do not matter, and over any calls no reply goes to the request of another one or is
given twice. -/
theorem exec_matches_requests (w : Worker) (timed : Bool) (code : String) (library? : Option String)
    (module : String) :
    (∀ e p, w.process.send (w.request code library? module).line = .error (e, p) →
      w.exec timed code library? module =
        some (.error (.crashed (.notWritten e)), { w.begin.2 with process := p })) ∧
    (∀ p text status?, w.Written (w.request code library? module) p text status? →
      (∀ before line later a, queuedLines text = before ++ line :: later →
        (∀ l ∈ before, ∀ b, ¬Answers w.nextId l b) → Answers w.nextId line a →
        ∃ rest, queuedLines rest = later ∧ w.exec timed code library? module = some (a, w.behind p rest)) ∧
      ((∀ l ∈ queuedLines text, ∀ b, ¬Answers w.nextId l b) →
        w.exec timed code library? module =
          some (.error (.crashed (.ofEnd status?)), w.behind p ""))) ∧
    (∀ (w' : Worker) p p' text text' status?, w'.nextId = w.nextId →
      w.Written (w.request code library? module) p text status? →
      w'.Written (w'.request code library? module) p' text' status? →
      Thinned w.nextId (queuedLines text) (queuedLines text') →
      ∃ a, (∃ v, w.exec timed code library? module = some (a, v)) ∧
        ∃ v, w'.exec timed code library? module = some (a, v)) ∧
    (∀ as w', Serves w as w' → ∀ i r, as[i]? = some (.ok r) →
      r.id? = some (w.nextId + i) ∧ (∃ line, Message.ofLine? line = some (.result r)) ∧
      ∀ j r', as[j]? = some (.ok r') → i ≠ j → ∀ line, Message.ofLine? line = some (.result r) →
        Message.ofLine? line ≠ some (.result r')) := by
  refine ⟨fun e p h => exec_of_not_sent h, fun p text status? h => ⟨?_, ?_⟩, ?_, ?_⟩
  · intro before line later a hlines hbefore ha
    obtain ⟨rest, hrest, hlisten⟩ := listen_of_first hlines hbefore ha
    exact ⟨rest, hrest, exec_of_written h hlisten⟩
  · intro hnone
    exact exec_of_written h (listen_of_none hnone)
  · intro w' p p' text text' status? hid h h' hthin
    let a := ((queuedLines text).findSome? (answerOfLine? w.nextId)).getD (.error (.crashed (.ofEnd status?)))
    have hlisten : (ScriptBench.listen w.nextId (some status?) (encodeUtf8 text)).1 = .answered a :=
      listen_fst_eq text
    have hlisten' : (ScriptBench.listen w'.nextId (some status?) (encodeUtf8 text')).1 = .answered a := by
      rw [listen_fst_eq, hid, ← hthin.findSome?_eq]
    exact ⟨a, ⟨_, exec_of_written h (Prod.ext hlisten rfl)⟩, _, exec_of_written h' (Prod.ext hlisten' rfl)⟩
  · intro as w' h i r hr
    obtain ⟨hi, hread⟩ := h.id_and_line hr
    refine ⟨hi, hread, ?_⟩
    intro j r' hr' hij line hline hline'
    rw [hline] at hline'
    cases hline'
    obtain ⟨hj, _⟩ := h.id_and_line hr'
    rw [hi] at hj
    injection hj with hj
    omega

/-- The second call of a worker passes over an answer to the first one and a blank line, and leaves the line
behind its own answer queued. -/
theorem exec_matches_requests_leftover :
    let first := "\x7b\"type\":\"result\",\"id\":1,\"ok\":false\x7d"
    let second := "\x7b\"type\":\"result\",\"id\":2,\"ok\":true\x7d"
    let third := "\x7b\"type\":\"invalid\",\"message\":\"late\"\x7d"
    let p : Process := .printed (first ++ "\n\r\n" ++ second ++ "\n" ++ third)
    let w : Worker := ⟨p, "3.12", none, 2⟩
    ∃ rest, queuedLines rest = [third] ∧
      w.exec false "1" none "lib" = some (.ok ⟨some 2, true, "", "", none, none⟩, w.behind p rest) := by
  intro first second third p w
  have hwritten : w.Written (w.request "1" none "lib") p (first ++ "\n\r\n" ++ second ++ "\n" ++ third) none :=
    ⟨rfl, rfl, rfl⟩
  have hfirst : ∀ b, ¬Answers 2 first b := answerOfLine?_eq_none_iff.1 (by decide +kernel)
  have hblank : ∀ b, ¬Answers 2 "" b := answerOfLine?_eq_none_iff.1 (by decide +kernel)
  have hsecond : Answers 2 second (.ok ⟨some 2, true, "", "", none, none⟩) := .result (by decide +kernel) rfl
  obtain ⟨_, hcall, _⟩ := exec_matches_requests w false "1" none "lib"
  refine (hcall p _ none hwritten).1 [first, ""] second [third] _ (by decide +kernel) ?_ hsecond
  intro l hl
  rcases List.mem_cons.1 hl with rfl | hl
  · exact hfirst
  · rw [List.mem_singleton.1 hl]
    exact hblank

end Worker

end ScriptBench
