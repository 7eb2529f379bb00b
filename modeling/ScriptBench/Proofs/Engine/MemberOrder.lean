import ScriptBench.Engine.Basic
import ScriptBench.Proofs.Engine.Fields
import ScriptBench.Proofs.Engine.Report
import ScriptBench.Proofs.Json.Accepted
import ScriptBench.Proofs.Json.Shuffled

/-! Messages are read whatever the order of their members is, and whatever unknown members stand among them. A message
in which a known member stands twice is not read. -/
namespace ScriptBench

open Json

/-- What is read of known members is the same if members are shuffled. -/
theorem Json.Shuffled.once? {known : String → Prop} {ms ms' : List MemberText} (h : Shuffled known ms ms')
    (hwritten : ∀ m ∈ ms', Written m.text) {depth : Nat} (hdepth : 100 < depth) :
    Option.Rel (fun vs vs' => ∀ name, known name → Message.once? vs name = Message.once? vs' name)
      (ms.mapM (MemberText.read? depth)) (ms'.mapM (MemberText.read? depth)) := by
  obtain ⟨extra, hperm, hextra⟩ := h
  have hread : ∀ m ∈ extra, ∃ name v, m.read? depth = some (name, v) ∧ ¬known name := by
    intro m hm
    exact (hextra m hm).exists_read? (hwritten m (hperm.mem_iff.2 (by simp [hm]))) hdepth
  have hall : (extra.all fun m => (m.read? depth).isSome) = true := by
    rw [List.all_eq_true]
    intro m hm
    obtain ⟨name, v, hv, -⟩ := hread m hm
    rw [hv]
    rfl
  have hunknown : ∀ v ∈ extra.filterMap (MemberText.read? depth), ¬known v.1 := by
    intro v hv
    obtain ⟨m, hm, hv⟩ := List.mem_filterMap.1 hv
    obtain ⟨name, u, hu, hname⟩ := hread m hm
    rw [hu] at hv
    cases hv
    exact hname
  rw [mapM_eq_ite, mapM_eq_ite, hperm.all_eq, List.all_append, hall, Bool.and_true]
  split
  · refine .some fun name hname => ?_
    rw [Message.once?_perm (hperm.filterMap _), List.filterMap_append, Message.once?_append_of_unknown]
    rintro v hv rfl
    exact hunknown v hv hname
  · exact .none

namespace Message

/-! Lines -/

/-- The names of the members that count in a message: the tag, and the fields of the kind that it tells. -/
def Known (ms : List MemberText) (name : String) : Prop :=
  name = "type" ∨ ∃ m ∈ ms, ∃ kind, m.name? = some "type" ∧ Value.parse (.ofList m.text) = .ok (.string kind) ∧
    name ∈ fieldNames kind

/-- A member, and the same with the members of its error shuffled. -/
inductive SameMember : MemberText → MemberText → Prop
  | same (m : MemberText) : SameMember m m
  | error {key text text' : List Char} {ms ms' : List MemberText} (hname : MemberText.name? ⟨key, text⟩ = some "error")
      (h : ObjectText ms text) (h' : ObjectText ms' text') (hms : Shuffled (· ∈ RaisedError.fieldNames) ms ms') :
      SameMember ⟨key, text⟩ ⟨key, text'⟩

/-- Two lines are objects with the same members in any order, and unknown ones may stand among those of the second. -/
def Reordered (line line' : String) : Prop :=
  ∃ ms between ms', ObjectText ms line.toList ∧ ObjectText ms' line'.toList ∧ List.Forall₂ SameMember ms between ∧
    Shuffled (Known ms) between ms'

/-- A known member stands twice in a message, or in the error of a result. -/
inductive Doubled (ms : List MemberText) : Prop
  | member {name : String} (hname : Known ms name) (htwice : Twice name ms)
  | error {m : MemberText} {es : List MemberText} {name : String} (hm : m ∈ ms) (herror : Known ms "error")
      (hm' : m.name? = some "error") (h : ObjectText es m.text) (hname : name ∈ RaisedError.fieldNames)
      (htwice : Twice name es)

theorem SameMember.read? {m m' : MemberText} (h : SameMember m m') :
    Option.Rel (fun v v' => v.1 = v'.1 ∧ SameValue v.1 v.2 v'.2) (m.read? (depthLimit - 1))
      (m'.read? (depthLimit - 1)) := by
  cases h with
  | same =>
    cases m.read? (depthLimit - 1) with
    | none => exact .none
    | some v => exact .some ⟨rfl, .inl rfl⟩
  | @error key text text' ms ms' hname h h' hms =>
    have hrel := hms.once? h'.written (show 100 < depthLimit - 2 by decide)
    have hname' : MemberText.name? ⟨key, text'⟩ = some "error" := hname
    have hread := alone_objectText h (show depthLimit - 2 ≠ 0 by decide)
    have hread' := alone_objectText h' (show depthLimit - 2 ≠ 0 by decide)
    change alone (readValue (depthLimit - 1)) text = _ at hread
    change alone (readValue (depthLimit - 1)) text' = _ at hread'
    rw [MemberText.read?, MemberText.read?, hname, hname']
    dsimp only
    rw [hread, hread']
    generalize ms.mapM (MemberText.read? (depthLimit - 2)) = vs? at hrel
    generalize ms'.mapM (MemberText.read? (depthLimit - 2)) = vs?' at hrel
    cases hrel with
    | none => exact .none
    | some hvs =>
      refine .some ⟨rfl, .inr ⟨rfl, ?_⟩⟩
      simp only [nullable?, raisedError?_congr hvs]

theorem sameFields_of_sameMembers {ms ms' : List MemberText} (h : List.Forall₂ SameMember ms ms') :
    Option.Rel SameFields (ms.mapM (MemberText.read? (depthLimit - 1)))
      (ms'.mapM (MemberText.read? (depthLimit - 1))) := by
  induction h with
  | nil => exact .some .nil
  | @cons m m' ms ms' h _ ih =>
    have hread := h.read?
    rw [List.mapM_cons, List.mapM_cons]
    generalize m.read? (depthLimit - 1) = v? at hread
    generalize m'.read? (depthLimit - 1) = v?' at hread
    generalize ms.mapM (MemberText.read? (depthLimit - 1)) = vs? at ih
    generalize ms'.mapM (MemberText.read? (depthLimit - 1)) = vs?' at ih
    cases hread with
    | none => exact .none
    | some hv =>
      cases ih with
      | none => exact .none
      | some hvs => exact .some (.cons hv hvs)

theorem ofLine?_objectText {ms : List MemberText} {line : String} (h : ObjectText ms line.toList) :
    ofLine? line = (ms.mapM (MemberText.read? (depthLimit - 1))).bind fun vs => ofValue? (.object vs) := by
  rw [ofLine?, parse_objectText h, Option.bind_map]
  rfl

/-- The fields of the kind that is read are known. -/
theorem known_of_once? {ms : List MemberText} (hwritten : ∀ m ∈ ms, Written m.text) {vs : List (String × Value)}
    (h : ms.mapM (MemberText.read? (depthLimit - 1)) = some vs) {kind name : String}
    (hkind : once? vs "type" = some (some (.string kind))) (hname : name ∈ fieldNames kind) : Known ms name := by
  obtain ⟨m, hm, hread⟩ := exists_of_mem_mapM h (mem_of_once? hkind)
  obtain ⟨htype, hvalue⟩ := MemberText.read?_eq_some_iff.1 hread
  have hheight : (Value.string kind).height < depthLimit := by
    rw [Value.height]
    decide
  exact .inr ⟨m, hm, kind, htype, parse_of_alone (hwritten m hm) hvalue hheight, hname⟩

/-- The same message is read from both lines, or none from both. -/
theorem ofLine?_of_reordered {line line' : String} (h : Reordered line line') : ofLine? line = ofLine? line' := by
  obtain ⟨ms, between, ms', htext, htext', hsame, hshuffled⟩ := h
  have hfields := sameFields_of_sameMembers hsame
  have honce := hshuffled.once? htext'.written (show 100 < depthLimit - 1 by decide)
  rw [ofLine?_objectText htext, ofLine?_objectText htext']
  generalize hread : ms.mapM (MemberText.read? (depthLimit - 1)) = vs? at hfields
  generalize between.mapM (MemberText.read? (depthLimit - 1)) = us? at hfields honce
  generalize ms'.mapM (MemberText.read? (depthLimit - 1)) = vs?' at honce
  cases hfields with
  | none =>
    cases honce
    rfl
  | @some vs us hfields =>
    cases honce with
    | @some _ vs' honce =>
      have hagree : ∀ name, Known ms name → Agree name vs vs' := by
        intro name hname
        have hrel := agree_of_sameFields hfields name
        rwa [Agree, honce name hname] at hrel
      refine ofValue?_congr (hagree "type" (.inl rfl)) fun kind hkind name hname => ?_
      exact hagree name (known_of_once? htext.written hread hkind hname)

/-! Members that stand twice -/

theorem once?_of_twice_text {ms : List MemberText} {depth : Nat} {vs : List (String × Value)}
    (h : ms.mapM (MemberText.read? depth) = some vs) {name : String} (htwice : Twice name ms) :
    once? vs name = none := by
  rw [Twice, MemberText.names_of_mapM h] at htwice
  obtain ⟨names, hsublist, heq⟩ := List.sublist_map_iff.1 htwice
  have hsame : [name, name] = names := List.map_injective_iff.2 (fun _ _ => Option.some.inj) heq
  exact once?_of_twice (hsame ▸ hsublist)

section

variable {ms : List MemberText} (hwritten : ∀ m ∈ ms, Written m.text) {vs : List (String × Value)}
  (hread : ms.mapM (MemberText.read? (depthLimit - 1)) = some vs)

include hwritten hread

theorem kind_of_known {name : String} (hname : Known ms name) {message : Message}
    (h : ofValue? (.object vs) = some message) :
    name = "type" ∨ ∃ kind, name ∈ fieldNames kind ∧ ofMembers? kind (vs.filter (·.1 != "type")) = some message := by
  rcases hname with rfl | ⟨m, hm, kind, htype, hparse, hfield⟩
  · exact .inl rfl
  · have hheight : (Value.string kind).height < depthLimit - 1 := by
      rw [Value.height]
      decide
    have hvalue := alone_of_height (hwritten m hm) (alone_of_parse hparse) hheight
    obtain ⟨v, hv, hm⟩ := exists_mem_of_mapM hread hm
    rw [MemberText.read?_eq_some_iff.2 ⟨htype, hvalue⟩] at hm
    cases hm
    exact .inr ⟨kind, hfield, kind_of_mem hv h⟩

theorem ofValue?_of_twice {name : String} (hname : Known ms name) (htwice : Twice name ms) :
    ofValue? (.object vs) = none := by
  rw [Option.eq_none_iff_forall_ne_some]
  intro message h
  have honce := once?_of_twice_text hread htwice
  rcases kind_of_known hwritten hread hname h with rfl | ⟨kind, hfield, hkind⟩
  · rw [ofValue?, required?_of_none honce] at h
    cases h
  · have hne : name ≠ "type" := by
      rintro rfl
      exact type_not_mem_fieldNames kind hfield
    rw [ofMembers?_of_none hfield (by rw [once?_filter hne, honce])] at hkind
    cases hkind

theorem ofValue?_of_error {v : Value} (herror : Known ms "error") (hv : ("error", v) ∈ vs)
    (hnone : nullable? raisedError? v = none) : ofValue? (.object vs) = none := by
  rw [Option.eq_none_iff_forall_ne_some]
  intro message h
  rcases kind_of_known hwritten hread herror h with heq | ⟨kind, hfield, hkind⟩
  · exact absurd heq (by decide)
  · rw [ofMembers?_of_error hfield] at hkind
    · cases hkind
    · rw [optional?, once?_filter (by decide)]
      cases honce : once? vs "error" with
      | none => rfl
      | some v? =>
        cases once?_of_mem hv honce
        exact hnone

end

theorem nullable?_of_twice {text : List Char} {es : List MemberText} (h : ObjectText es text) {name : String}
    (hname : name ∈ RaisedError.fieldNames) (htwice : Twice name es) {v : Value}
    (hv : alone (readValue (depthLimit - 1)) text = some v) : nullable? raisedError? v = none := by
  have hobject := alone_objectText h (show depthLimit - 2 ≠ 0 by decide)
  obtain ⟨vs, hvs, rfl⟩ := Option.map_eq_some_iff.1 (hobject.symm.trans hv)
  simp only [nullable?, raisedError?_of_none hname (once?_of_twice_text hvs htwice), Option.map_none]

/-- No message is read from an object in which a known member stands twice. -/
theorem ofLine?_of_doubled {ms : List MemberText} {line : String} (h : ObjectText ms line.toList) (hms : Doubled ms) :
    ofLine? line = none := by
  rw [ofLine?_objectText h]
  cases hread : ms.mapM (MemberText.read? (depthLimit - 1)) with
  | none => rfl
  | some vs =>
    cases hms with
    | member hname htwice => exact ofValue?_of_twice h.written hread hname htwice
    | error hm herror hm' hes hname htwice =>
      obtain ⟨⟨name, v⟩, hv, hm⟩ := exists_mem_of_mapM hread hm
      obtain ⟨hname', hvalue⟩ := MemberText.read?_eq_some_iff.1 hm
      rw [hm'] at hname'
      cases hname'
      exact ofValue?_of_error h.written hread herror hv (nullable?_of_twice hes hname htwice hvalue)

end Message

/-! Greetings and answers -/

/-- What the handshake makes of a line: it accepts it with a version, or refuses it. -/
def Greets (line : String) (version? : Option String) : Prop :=
  ∀ (budget : Nat) (p q : Process), budget ≠ 0 → p.hear = (.line line, q) →
    handshake budget p = match version? with
      | some version => .ok (version, q)
      | none => .error (.unexpected line)

/-- What a call makes of a line. -/
inductive Treatment where
  | returned (r : Reply)
  | rejected (message : String)
  | skipped

namespace Treatment

/-- How a call goes on behind a line. The worker has read the line. -/
def result (armed : Bool) (id : Nat) (w : Worker) : Treatment → Option (Except EngineError Reply × Worker)
  | returned r => some (.ok r, w)
  | rejected message => some (.error (.rejected message), w)
  | skipped => w.await armed id

/-- What a call makes of the message of a line, if there is one. -/
def ofMessage (id : Nat) : Option Message → Treatment
  | some (.result r) => if r.id? = some id then returned r else skipped
  | some (.invalid message) => rejected message
  | _ => skipped

end Treatment

/-- A call with a number makes this of a line: of the first that it hears, and of each later one. -/
structure Treats (id : Nat) (line : String) (t : Treatment) : Prop where
  exec : ∀ {w : Worker} {p q : Process} (timed : Bool) (code : String) (library? : Option String) (module : String),
    w.nextId = id → w.process.send (w.request code library? module).line = .ok p → p.hear = (.line line, q) →
    w.exec timed code library? module = t.result (timed && w.begin.2.cell?.isSome) id { w.begin.2 with process := q }
  await : ∀ {w : Worker} {q : Process} (armed : Bool), w.process.hear = (.line line, q) →
    w.await armed id = t.result armed id { w with process := q }

/-- The version of a greeting. -/
def Message.version? : Message → Option String
  | ready version _ => some version
  | _ => none

theorem greets_line (line : String) : Greets line ((Message.ofLine? line).bind Message.version?) := by
  intro budget p q hbudget hhear
  rw [handshake, if_neg hbudget, hhear]
  dsimp only
  cases Message.ofLine? line with
  | none => rfl
  | some message => cases message <;> rfl

section

variable {w : Worker} {q : Process} {id : Nat} {line : String}

theorem exists_hear {p : Process} (h : p.hear = (.line line, q)) :
    ∃ rest, hear p.outputEnd? p.unread = (.line line, rest) ∧ q = { p with unread := rest } := by
  rw [Process.hear] at h
  cases hhear : hear p.outputEnd? p.unread with
  | mk heard rest =>
    rw [hhear] at h
    cases h
    exact ⟨rest, rfl, rfl⟩

theorem await_of_answer (h : w.process.hear = (.line line, q)) {a : Except EngineError Reply}
    (ha : answerOfLine? id line = some a) (armed : Bool) :
    w.await armed id = some (a, { w with process := q }) := by
  obtain ⟨rest, hhear, rfl⟩ := exists_hear h
  refine Worker.await_of_answered ?_
  rw [Process.listen, listen_of_answer hhear ha]

theorem await_of_other (h : w.process.hear = (.line line, q)) (ha : answerOfLine? id line = none) (armed : Bool) :
    w.await armed id = ({ w with process := q } : Worker).await armed id := by
  obtain ⟨rest, hhear, rfl⟩ := exists_hear h
  refine Worker.await_congr (p := w.process) ?_ armed
  rw [Process.listen, listen_of_other hhear ha]
  rfl

theorem await_of_hear (h : w.process.hear = (.line line, q)) (armed : Bool) :
    w.await armed id = (Treatment.ofMessage id (Message.ofLine? line)).result armed id { w with process := q } := by
  cases hmessage : Message.ofLine? line with
  | none => exact await_of_other h (by rw [answerOfLine?, hmessage]; rfl) armed
  | some message =>
    cases message with
    | ready => exact await_of_other h (by rw [answerOfLine?, hmessage]; rfl) armed
    | invalid => exact await_of_answer h (by rw [answerOfLine?, hmessage]; rfl) armed
    | result r =>
      rw [Treatment.ofMessage]
      split
      case isTrue hid =>
        refine await_of_answer h ?_ armed
        rw [answerOfLine?, hmessage, Option.bind_some, Message.answers?, if_pos hid]
      case isFalse hid =>
        refine await_of_other h ?_ armed
        rw [answerOfLine?, hmessage, Option.bind_some, Message.answers?, if_neg hid]

theorem treats_line (id : Nat) (line : String) : Treats id line (.ofMessage id (Message.ofLine? line)) where
  exec timed code library? module hid hsent hhear := by
    subst hid
    rw [Worker.exec_of_sent hsent]
    exact await_of_hear hhear _
  await armed hhear := await_of_hear hhear armed

end

/-- Every line that is parsed as an object is a text of one. Two lines with the same members in any order, with unknown
ones among those of the second, are treated alike by the handshake and by each call. A line in which a known member
stands twice is refused and skipped. -/
theorem member_order_irrelevant :
    (∀ line vs, Value.parse line = .ok (.object vs) → ∃ ms, ObjectText ms line.toList) ∧
    (∀ line line', Message.Reordered line line' →
      (∃ version?, Greets line version? ∧ Greets line' version?) ∧
      ∀ id, ∃ t, Treats id line t ∧ Treats id line' t) ∧
    ∀ line ms, ObjectText ms line.toList → Message.Doubled ms →
      Greets line none ∧ ∀ id, Treats id line .skipped := by
  refine ⟨fun _ _ => exists_objectText_of_parse, ?_, ?_⟩
  · intro line line' h
    have hmessage := Message.ofLine?_of_reordered h
    refine ⟨⟨_, greets_line line, ?_⟩, fun id => ⟨_, treats_line id line, ?_⟩⟩
    · rw [hmessage]
      exact greets_line line'
    · rw [hmessage]
      exact treats_line id line'
  · intro line ms htext hdoubled
    have hmessage := Message.ofLine?_of_doubled htext hdoubled
    have hgreets := greets_line line
    rw [hmessage] at hgreets
    refine ⟨hgreets, fun id => ?_⟩
    have htreats := treats_line id line
    rwa [hmessage] at htreats

/-! A result and a greeting -/

namespace Message

open MemberText

/-- The names that count in a printed message are those of the kind that it tells. -/
theorem exists_kind_of_known {members : List (String × Value)} (h : ∀ m ∈ members, m.2.Printed)
    (hheight : ∀ m ∈ members, m.2.height < depthLimit) {name : String} (hname : Known (members.map ofMember) name) :
    name = "type" ∨ ∃ kind, ("type", .string kind) ∈ members ∧ name ∈ fieldNames kind := by
  rcases hname with rfl | ⟨m, hm, kind, htype, hparse, hfield⟩
  · exact .inl rfl
  · obtain ⟨⟨name', v⟩, hmem, rfl⟩ := List.mem_map.1 hm
    rw [name?_ofMember] at htype
    cases htype
    have hv : Value.parse (.ofList v.compact) = .ok v := by
      refine parse_of_spells (hheight _ hmem) ?_
      rw [String.toList_ofList]
      exact (h _ hmem).spells
    cases hv.symm.trans hparse
    exact .inr ⟨kind, hmem, hfield⟩

/-- The members of an error. -/
def failure : List (String × Value) := [("kind", .string "ValueError"), ("message", .string "bad value")]

/-- The same members the other way round, and an unknown one in front. -/
def failureAround : List (String × Value) := ("notes", .array [.null]) :: failure.reverse

/-- The members of a result with an error. -/
def failed (error : List (String × Value)) : List (String × Value) :=
  [("type", .string "result"), ("id", .nat 3), ("ok", .bool false), ("error", .object error)]

def failedAround : List (String × Value) := ("seconds", .object [("wall", .nat 2)]) :: (failed failureAround).reverse

/-- A greeting with two versions. -/
def greetingTwice : List (String × Value) :=
  [("version", .string "3.12"), ("type", .string "ready"), ("version", .string "3.12"), ("pid", .nat 7)]

theorem printed_failure : ∀ m ∈ failure, m.2.Printed := by
  simp only [failure, List.mem_cons, List.not_mem_nil, or_false, forall_eq_or_imp, forall_eq]
  exact ⟨printed_text _, printed_text _⟩

theorem printed_failureAround : ∀ m ∈ failureAround, m.2.Printed := by
  refine List.forall_mem_cons.2 ⟨printed_array (List.forall_mem_singleton.2 printed_null), fun m hm => ?_⟩
  exact printed_failure m (List.mem_reverse.1 hm)

theorem printed_failed {error : List (String × Value)} (h : ∀ m ∈ error, m.2.Printed) :
    ∀ m ∈ failed error, m.2.Printed := by
  simp only [failed, List.mem_cons, List.not_mem_nil, or_false, forall_eq_or_imp, forall_eq]
  exact ⟨printed_text _, printed_nat (by decide), printed_bool _, printed_object h⟩

theorem printed_failedAround : ∀ m ∈ failedAround, m.2.Printed := by
  have hwall : (Value.nat 2).Printed := printed_nat (by decide)
  refine List.forall_mem_cons.2 ⟨printed_object (List.forall_mem_singleton.2 hwall), fun m hm => ?_⟩
  exact printed_failed printed_failureAround m (List.mem_reverse.1 hm)

theorem printed_greetingTwice : ∀ m ∈ greetingTwice, m.2.Printed := by
  simp only [greetingTwice, List.mem_cons, List.not_mem_nil, or_false, forall_eq_or_imp, forall_eq]
  exact ⟨printed_text _, printed_text _, printed_text _, printed_nat (by decide)⟩

theorem reordered_failed :
    Reordered (Value.object (failed failure)).line (Value.object failedAround).line := by
  refine ⟨(failed failure).map ofMember, (failed failureAround).map ofMember, failedAround.map ofMember, ?_, ?_, ?_, ?_⟩
  · rw [Value.line, String.toList_ofList]
    exact objectText_compact (printed_failed printed_failure)
  · rw [Value.line, String.toList_ofList]
    exact objectText_compact printed_failedAround
  · refine .cons (.same _) (.cons (.same _) (.cons (.same _) (.cons ?_ .nil)))
    refine .error (name?_ofMember ("error", .object failure)) (objectText_compact printed_failure)
      (objectText_compact printed_failureAround) ?_
    exact shuffled_reverse (printed_failureAround _ (by simp [failureAround])) (by decide) (by decide)
  · refine shuffled_reverse (printed_failedAround _ (by simp [failedAround])) (by decide) fun hknown => ?_
    have hheight : ∀ m ∈ failed failure, m.2.height < depthLimit := by decide
    rcases exists_kind_of_known (printed_failed printed_failure) hheight hknown with heq | ⟨kind, hkind, hfield⟩
    · exact absurd heq (by decide)
    · simp only [failed, List.mem_cons, Prod.mk.injEq, Value.string.injEq, true_and, List.not_mem_nil, or_false] at hkind
      rcases hkind with rfl | ⟨h, -⟩ | ⟨h, -⟩ | ⟨h, -⟩
      · exact absurd hfield (by decide)
      all_goals exact absurd h (by decide)

theorem doubled_greetingTwice : Doubled (greetingTwice.map ofMember) := by
  have hready : Value.parse (.ofList (ofMember ("type", .string "ready")).text) = .ok (.string "ready") := by
    refine parse_of_spells (by decide) ?_
    rw [String.toList_ofList]
    exact (printed_text "ready").spells
  have hversion : Known (greetingTwice.map ofMember) "version" :=
    .inr ⟨_, by simp [greetingTwice], "ready", name?_ofMember _, hready, by decide⟩
  have hnames : (greetingTwice.map ofMember).map MemberText.name? =
      [some "version", some "type", some "version", some "pid"] := by
    simp only [greetingTwice, List.map_cons, List.map_nil, name?_ofMember]
  refine .member hversion ?_
  rw [Twice, hnames]
  decide

end Message

/-- A result with an error, with all members the other way round and unknown ones in front, and a greeting with two
versions. -/
theorem member_order_irrelevant_of_failed :
    (∃ ms, ObjectText ms (Value.object (Message.failed Message.failure)).line.toList) ∧
    ((∃ version?, Greets (Value.object (Message.failed Message.failure)).line version? ∧
        Greets (Value.object Message.failedAround).line version?) ∧
      ∀ id, ∃ t, Treats id (Value.object (Message.failed Message.failure)).line t ∧
        Treats id (Value.object Message.failedAround).line t) ∧
    Greets (Value.object Message.greetingTwice).line none ∧
      ∀ id, Treats id (Value.object Message.greetingTwice).line .skipped := by
  obtain ⟨hobject, hreordered, hdoubled⟩ := member_order_irrelevant
  have hfailed := printed_object (Message.printed_failed Message.printed_failure)
  refine ⟨hobject _ _ (parse_of_spells (by decide) hfailed.spells_line), hreordered _ _ Message.reordered_failed,
    hdoubled _ _ ?_ Message.doubled_greetingTwice⟩
  rw [Value.line, String.toList_ofList]
  exact objectText_compact Message.printed_greetingTwice

end ScriptBench
