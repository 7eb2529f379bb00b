import ScriptBench.Proofs.Engine.Matching
import ScriptBench.Proofs.Json.Member

/-! What the driver writes when a program has ended. Texts of the program are any code points. The line is
recognised as the answer just if every half of a pair stands in its pair. -/
namespace ScriptBench

open Decimal (digitsOf)
open Json Text

/-- A text of the interpreter: code points, of which some may be halves of pairs. -/
abbrev Points := List (Fin 0x110000)

namespace Points

def units (t : Points) : List Nat := t.flatMap fun p => Json.units p.val

/-- A text as a string of ASCII. -/
def chars (t : Points) : List Char := asciiString t.units

/-- The same text for the host, if there is one. -/
def text? (t : Points) : Option String := (ofUnits? t.units).map String.ofList

theorem units_lt (t : Points) : ∀ n ∈ t.units, n < 0x10000 := by
  intro n hn
  obtain ⟨p, _, hn⟩ := List.mem_flatMap.1 hn
  exact Json.units_lt p.isLt n hn

theorem text?_eq_some_iff {t : Points} {s : String} : t.text? = some s ↔ textUnits s.toList = t.units := by
  constructor
  · intro h
    obtain ⟨text, htext, rfl⟩ := Option.map_eq_some_iff.1 h
    rw [String.toList_ofList]
    exact textUnits_of_ofUnits? t.units_lt htext
  · intro h
    rw [text?, ← h, ofUnits?_textUnits, Option.map_some, String.ofList_toList]

theorem text?_isSome_iff {t : Points} : t.text?.isSome = true ↔ Paired t.units := by
  rw [text?, Option.isSome_map, ofUnits?_isSome_iff]

end Points

/-- An exception of a program. -/
structure RaisedPoints where
  kind : Points
  message : Points
  traceback : Points

/-- What the driver tells of a program that has ended. -/
structure Report where
  ok : Bool
  stdout : Points
  stderr : Points
  value? : Option Points
  error? : Option RaisedPoints

def RaisedPoints.chars (x : RaisedPoints) : List Char :=
  objectChars [("kind", x.kind.chars), ("message", x.message.chars), ("traceback", x.traceback.chars)]

namespace Report

/-- The text of a value that may lack. -/
def nullable {α : Type} (chars : α → List Char) : Option α → List Char
  | some a => chars a
  | none => Value.null.compact

/-- The characters of the line that answers the request with a number. -/
def chars (id : Nat) (r : Report) : List Char :=
  objectChars
    [("type", asciiString (textUnits ['r', 'e', 's', 'u', 'l', 't'])),
     ("id", digitsOf id),
     ("ok", (Value.bool r.ok).compact),
     ("stdout", r.stdout.chars),
     ("stderr", r.stderr.chars),
     ("value", nullable Points.chars r.value?),
     ("error", nullable RaisedPoints.chars r.error?)]

def line (id : Nat) (r : Report) : String := String.ofList (r.chars id)

/-- The texts of a report. -/
def texts (r : Report) : List Points :=
  [r.stdout, r.stderr] ++ r.value?.toList ++
    match r.error? with
    | some x => [x.kind, x.message, x.traceback]
    | none => []

/-- Every half of a pair stands in its pair. -/
def Whole (r : Report) : Prop := ∀ t ∈ r.texts, Paired t.units

/-- A text of the host is one of the interpreter: they have the same units. -/
def Same (s : String) (t : Points) : Prop := textUnits s.toList = t.units

/-- A reply to a request tells exactly what a report says. -/
structure ToldBy (r : Report) (id : Nat) (reply : Reply) : Prop where
  id : reply.id? = some id
  ok : reply.ok = r.ok
  stdout : Same reply.stdout r.stdout
  stderr : Same reply.stderr r.stderr
  value : Option.Rel Same reply.value? r.value?
  error : Option.Rel
    (fun e x => Same e.kind x.kind ∧ Same e.message x.message ∧ Same e.traceback x.traceback)
    reply.error? r.error?

example : String.ofList (chars 7 ⟨false, [0x61, 0x0A], [0xE9], none, some ⟨[0x45], [0x1F600], [0xD800]⟩⟩) =
    "\x7b\"type\": \"result\", \"id\": 7, \"ok\": false, \"stdout\": \"a\\n\", \"stderr\": \"\\u00e9\", " ++
      "\"value\": null, \"error\": \x7b\"kind\": \"E\", \"message\": \"\\ud83d\\ude00\", " ++
      "\"traceback\": \"\\ud800\"\x7d\x7d" := by
  decide +kernel

end Report

/-! Reading a report -/

section

variable {α : Type} {members : List (String × Value)} {name : String} {v : Value}

theorem required?_of_once? (h : Message.once? members name = some (some v)) (read : Value → Option α) :
    Message.required? members name read = read v := by
  rw [Message.required?, h]
  rfl

theorem optional?_of_once? (h : Message.once? members name = some (some v)) (fallback : α)
    (read : Value → Option α) : Message.optional? members name fallback read = read v := by
  rw [Message.optional?, h]
  rfl

end

theorem natBelow?_nat {bound n : Nat} (h : n < bound) : Message.natBelow? bound (.nat n) = some n := by
  have hbound : (0 : Int) ≤ n ∧ (n : Int) < bound := ⟨Int.natCast_nonneg n, Int.ofNat_lt.2 h⟩
  rw [Value.nat, Message.natBelow?, if_pos hbound, Int.toNat_natCast]

theorem nullable?_nat {bound n : Nat} (h : n < bound) :
    Message.nullable? (Message.natBelow? bound) (.nat n) = some (some n) := by
  have hread := natBelow?_nat h
  change (Message.natBelow? bound (.nat n)).map some = some (some n)
  rw [hread]
  rfl

theorem readsAs_points {height : Nat} (t : Points) : ReadsAs height t.chars (t.text?.map .string) := by
  have h := @readsAs_string height t.units t.units_lt
  rw [Points.text?, Option.map_map]
  exact h

/-- How a value that may lack is read. -/
def nullableValue? {α : Type} (value? : α → Option Value) : Option α → Option Value
  | some a => value? a
  | none => some .null

theorem readsAs_nullable {height : Nat} {α : Type} {chars : α → List Char} {value? : α → Option Value}
    (h : ∀ a, ReadsAs height (chars a) (value? a)) (a? : Option α) :
    ReadsAs height (Report.nullable chars a?) (nullableValue? value? a?) := by
  cases a? with
  | none => exact readsAs_null
  | some a => exact h a

namespace RaisedPoints

def members (x : RaisedPoints) : List Member :=
  [⟨"kind", x.kind.chars, x.kind.text?.map .string⟩,
   ⟨"message", x.message.chars, x.message.text?.map .string⟩,
   ⟨"traceback", x.traceback.chars, x.traceback.text?.map .string⟩]

def value? (x : RaisedPoints) : Option Value := (Member.values? x.members).map .object

theorem readsAs (x : RaisedPoints) : ReadsAs 1 x.chars x.value? := by
  refine @readsAs_object 0 x.members fun m hm => ?_
  simp only [members, List.mem_cons, List.not_mem_nil, or_false] at hm
  rcases hm with rfl | rfl | rfl <;> exact readsAs_points _

/-- The same exception for the host, if its texts are texts there. -/
def raised? (x : RaisedPoints) : Option RaisedError := do
  let kind ← x.kind.text?
  let message ← x.message.text?
  let traceback ← x.traceback.text?
  return ⟨kind, message, traceback⟩

theorem raisedError?_of_value? (x : RaisedPoints) : x.value?.bind Message.raisedError? = x.raised? := by
  unfold value? raised? members
  cases x.kind.text? with
  | none => rfl
  | some kind =>
    cases x.message.text? with
    | none => rfl
    | some message =>
      cases x.traceback.text? with
      | none => rfl
      | some traceback => rfl

end RaisedPoints

namespace Report

def members (id : Nat) (r : Report) : List Member :=
  [⟨"type", asciiString (textUnits ['r', 'e', 's', 'u', 'l', 't']), some (.string "result")⟩,
   ⟨"id", digitsOf id, some (.nat id)⟩,
   ⟨"ok", (Value.bool r.ok).compact, some (.bool r.ok)⟩,
   ⟨"stdout", r.stdout.chars, r.stdout.text?.map .string⟩,
   ⟨"stderr", r.stderr.chars, r.stderr.text?.map .string⟩,
   ⟨"value", nullable Points.chars r.value?, nullableValue? (fun t => t.text?.map .string) r.value?⟩,
   ⟨"error", nullable RaisedPoints.chars r.error?, nullableValue? RaisedPoints.value? r.error?⟩]

theorem readsAs {id : Nat} (hid : id < UInt64.size) (r : Report) :
    ReadsAs 2 (r.chars id) ((Member.values? (r.members id)).map .object) := by
  refine @readsAs_object 1 (r.members id) fun m hm => ?_
  simp only [members, List.mem_cons, List.not_mem_nil, or_false] at hm
  rcases hm with rfl | rfl | rfl | rfl | rfl | rfl | rfl
  · have h := @readsAs_string 1 _ (textUnits_lt ['r', 'e', 's', 'u', 'l', 't'])
    rw [ofUnits?_textUnits] at h
    exact h
  · exact readsAs_nat hid
  · exact readsAs_bool r.ok
  · exact readsAs_points r.stdout
  · exact readsAs_points r.stderr
  · exact readsAs_nullable (fun t => readsAs_points t) r.value?
  · exact readsAs_nullable RaisedPoints.readsAs r.error?

/-- The reply that tells what a report says, if its texts are texts for the host. -/
def reply? (id : Nat) (r : Report) : Option Reply := do
  let stdout ← r.stdout.text?
  let stderr ← r.stderr.text?
  let value ← r.value?.mapM Points.text?
  let error ← r.error?.mapM RaisedPoints.raised?
  return ⟨some id, r.ok, stdout, stderr, value, error⟩

theorem ofValue?_of_type {members : List (String × Value)}
    (h : Message.once? members "type" = some (some (.string "result"))) :
    Message.ofValue? (.object members) = Message.resultOf? (members.filter fun m => m.1 != "type") := by
  rw [Message.ofValue?, required?_of_once? h]
  rfl

theorem ofValue?_result {id : Nat} (hid : id < UInt64.size) (ok : Bool) (stdout stderr : String)
    (value error : Value) :
    Message.ofValue? (.object
      [("type", .string "result"), ("id", .nat id), ("ok", .bool ok), ("stdout", .string stdout),
       ("stderr", .string stderr), ("value", value), ("error", error)]) = do
      let value? ← Message.nullable? Message.text? value
      let error? ← Message.nullable? Message.raisedError? error
      return .result ⟨some id, ok, stdout, stderr, value?, error?⟩ := by
  have hfields : List.filter (fun m => m.1 != "type")
      [("type", .string "result"), ("id", .nat id), ("ok", .bool ok), ("stdout", .string stdout),
       ("stderr", .string stderr), ("value", value), ("error", error)] =
      [("id", Value.nat id), ("ok", .bool ok), ("stdout", .string stdout), ("stderr", .string stderr),
       ("value", value), ("error", error)] := rfl
  rw [ofValue?_of_type rfl, hfields, Message.resultOf?, @optional?_of_once? _ _ "id" (.nat id) rfl,
    nullable?_nat hid, @required?_of_once? _ _ "ok" (.bool ok) rfl,
    @optional?_of_once? _ _ "stdout" (.string stdout) rfl,
    @optional?_of_once? _ _ "stderr" (.string stderr) rfl, @optional?_of_once? _ _ "value" value rfl,
    @optional?_of_once? _ _ "error" error rfl]
  rfl

theorem nullable?_points (value? : Option Points) :
    (nullableValue? (fun t => t.text?.map .string) value?).bind (Message.nullable? Message.text?) =
      value?.mapM Points.text? := by
  cases value? with
  | none => rfl
  | some t => cases ht : t.text? <;> simp [nullableValue?, ht, Message.nullable?, Message.text?]

theorem nullable?_raised (error? : Option RaisedPoints) :
    (nullableValue? RaisedPoints.value? error?).bind (Message.nullable? Message.raisedError?) =
      error?.mapM RaisedPoints.raised? := by
  cases error? with
  | none => rfl
  | some x =>
    have hx := x.raisedError?_of_value?
    change x.value?.bind _ = _
    cases hv : x.value? with
    | none =>
      rw [hv] at hx
      simp [← hx]
    | some v =>
      rw [hv] at hx
      obtain ⟨members, rfl⟩ : ∃ members, v = .object members := by
        obtain ⟨members, _, h⟩ := Option.map_eq_some_iff.1 hv
        exact ⟨members, h.symm⟩
      change (Message.raisedError? (.object members)).map some = _
      change Message.raisedError? (.object members) = _ at hx
      rw [hx, Option.mapM_some]
      cases x.raised? <;> rfl

theorem values?_members (id : Nat) {r : Report} {stdout stderr : String} {value error : Value}
    (hstdout : r.stdout.text? = some stdout) (hstderr : r.stderr.text? = some stderr)
    (hvalue : nullableValue? (fun t => t.text?.map .string) r.value? = some value)
    (herror : nullableValue? RaisedPoints.value? r.error? = some error) :
    Member.values? (r.members id) = some
      [("type", .string "result"), ("id", .nat id), ("ok", .bool r.ok), ("stdout", .string stdout),
       ("stderr", .string stderr), ("value", value), ("error", error)] := by
  rw [members, hstdout, hstderr, hvalue, herror]
  rfl

theorem reply?_of_values (id : Nat) {r : Report} {stdout stderr : String} {value error : Value}
    (hstdout : r.stdout.text? = some stdout) (hstderr : r.stderr.text? = some stderr)
    (hvalue : nullableValue? (fun t => t.text?.map .string) r.value? = some value)
    (herror : nullableValue? RaisedPoints.value? r.error? = some error) :
    (r.reply? id).map .result = do
      let value? ← Message.nullable? Message.text? value
      let error? ← Message.nullable? Message.raisedError? error
      return Message.result ⟨some id, r.ok, stdout, stderr, value?, error?⟩ := by
  rw [reply?, hstdout, hstderr, ← nullable?_points, ← nullable?_raised, hvalue, herror]
  change Option.map Message.result (Option.bind (Message.nullable? Message.text? value) fun value? =>
    Option.bind (Message.nullable? Message.raisedError? error) fun error? =>
      some ⟨some id, r.ok, stdout, stderr, value?, error?⟩) = _
  cases Message.nullable? Message.text? value with
  | none => rfl
  | some value? => cases Message.nullable? Message.raisedError? error <;> rfl

/-- The line is read as the message that tells what the report says, or not at all. -/
theorem ofLine?_line {id : Nat} (hid : id < UInt64.size) (r : Report) :
    Message.ofLine? (r.line id) = (r.reply? id).map .result := by
  have hparse := parse_of_readsAs (r.readsAs hid) (by decide)
  rw [Message.ofLine?, line, hparse]
  cases hstdout : r.stdout.text? with
  | none => simp [members, Member.values?, reply?, hstdout]
  | some stdout =>
    cases hstderr : r.stderr.text? with
    | none => simp [members, Member.values?, reply?, hstdout, hstderr]
    | some stderr =>
      cases hvalue : nullableValue? (fun t => t.text?.map .string) r.value? with
      | none => simp [members, Member.values?, reply?, hstdout, hstderr, ← nullable?_points, hvalue]
      | some value =>
        cases herror : nullableValue? RaisedPoints.value? r.error? with
        | none => simp [members, Member.values?, reply?, hstdout, hstderr, ← nullable?_raised, hvalue, herror]
        | some error =>
          rw [values?_members id hstdout hstderr hvalue herror, Option.map_some, Option.bind_some,
            ofValue?_result hid, reply?_of_values id hstdout hstderr hvalue herror]

theorem mapM_eq_some_iff {α β : Type} {f : α → Option β} {a? : Option α} {b? : Option β} :
    a?.mapM f = some b? ↔ Option.Rel (fun b a => f a = some b) b? a? := by
  constructor
  · intro h
    cases a? with
    | none =>
      cases h
      exact .none
    | some a =>
      rw [Option.mapM_some] at h
      obtain ⟨b, hb, rfl⟩ := Option.map_eq_some_iff.1 h
      exact .some hb
  · rintro (hb | _)
    · simp [hb]
    · rfl

theorem raised?_eq_some_iff {x : RaisedPoints} {e : RaisedError} :
    x.raised? = some e ↔ Same e.kind x.kind ∧ Same e.message x.message ∧ Same e.traceback x.traceback := by
  constructor
  · intro h
    obtain ⟨kind, hkind, h⟩ := Option.bind_eq_some_iff.1 h
    obtain ⟨message, hmessage, h⟩ := Option.bind_eq_some_iff.1 h
    obtain ⟨traceback, htraceback, h⟩ := Option.bind_eq_some_iff.1 h
    cases h
    exact ⟨Points.text?_eq_some_iff.1 hkind, Points.text?_eq_some_iff.1 hmessage,
      Points.text?_eq_some_iff.1 htraceback⟩
  · rintro ⟨hkind, hmessage, htraceback⟩
    rw [RaisedPoints.raised?, Points.text?_eq_some_iff.2 hkind, Points.text?_eq_some_iff.2 hmessage,
      Points.text?_eq_some_iff.2 htraceback]
    rfl

theorem reply?_eq_some_iff {id : Nat} {r : Report} {reply : Reply} :
    r.reply? id = some reply ↔ r.ToldBy id reply := by
  have hpoints : ∀ {s : String} {t : Points}, t.text? = some s ↔ Same s t := Points.text?_eq_some_iff
  constructor
  · intro h
    obtain ⟨stdout, hstdout, h⟩ := Option.bind_eq_some_iff.1 h
    obtain ⟨stderr, hstderr, h⟩ := Option.bind_eq_some_iff.1 h
    obtain ⟨value?, hvalue, h⟩ := Option.bind_eq_some_iff.1 h
    obtain ⟨error?, herror, h⟩ := Option.bind_eq_some_iff.1 h
    rw [mapM_eq_some_iff] at hvalue herror
    simp only [hpoints] at hvalue hstdout hstderr
    simp only [raised?_eq_some_iff] at herror
    cases h
    exact ⟨rfl, rfl, hstdout, hstderr, hvalue, herror⟩
  · intro h
    obtain ⟨id?, ok, stdout, stderr, value?, error?⟩ := reply
    obtain ⟨hid, hok, hstdout, hstderr, hvalue, herror⟩ := h
    dsimp only at hid hok hstdout hstderr hvalue herror
    have hvalue' : r.value?.mapM Points.text? = some value? := by
      rw [mapM_eq_some_iff]
      simpa only [hpoints] using hvalue
    have herror' : r.error?.mapM RaisedPoints.raised? = some error? := by
      rw [mapM_eq_some_iff]
      simpa only [raised?_eq_some_iff] using herror
    rw [reply?, hpoints.2 hstdout, hpoints.2 hstderr, hvalue', herror', hid, hok]
    rfl

theorem raised?_isSome_iff {x : RaisedPoints} :
    x.raised?.isSome = true ↔
      Paired x.kind.units ∧ Paired x.message.units ∧ Paired x.traceback.units := by
  simp only [← Points.text?_isSome_iff]
  unfold RaisedPoints.raised?
  cases x.kind.text? with
  | none => simp
  | some kind => cases x.message.text? <;> cases x.traceback.text? <;> simp

theorem mapM_isSome_iff {α β : Type} {f : α → Option β} {a? : Option α} :
    (a?.mapM f).isSome = true ↔ ∀ a, a? = some a → (f a).isSome = true := by
  cases a? with
  | none => simp
  | some a => cases h : f a <;> simp [h]

theorem reply?_isSome_iff {id : Nat} {r : Report} : (r.reply? id).isSome = true ↔ r.Whole := by
  have hparts : (r.reply? id).isSome = true ↔
      r.stdout.text?.isSome = true ∧ r.stderr.text?.isSome = true ∧
      (r.value?.mapM Points.text?).isSome = true ∧ (r.error?.mapM RaisedPoints.raised?).isSome = true := by
    unfold reply?
    cases r.stdout.text? with
    | none => simp
    | some stdout =>
      cases r.stderr.text? with
      | none => simp
      | some stderr =>
        cases r.value?.mapM Points.text? <;> cases r.error?.mapM RaisedPoints.raised? <;> simp
  rw [hparts, mapM_isSome_iff, mapM_isSome_iff]
  simp only [Points.text?_isSome_iff, raised?_isSome_iff, Whole, texts]
  cases r.value? <;> cases r.error? <;> simp

theorem printable_chars (id : Nat) (r : Report) : Printable (r.chars id) := by
  have hpoints : ∀ t : Points, Printable t.chars := fun t => printable_asciiString t.units_lt
  have hnull : Printable Value.null.compact := printable_of_all rfl
  refine printable_objectChars fun f hf => ?_
  simp only [List.mem_cons, List.not_mem_nil, or_false] at hf
  rcases hf with rfl | rfl | rfl | rfl | rfl | rfl | rfl
  · exact printable_asciiString (textUnits_lt _)
  · exact printable_digitsOf id
  · cases r.ok <;> exact printable_of_all rfl
  · exact hpoints r.stdout
  · exact hpoints r.stderr
  · cases r.value? with
    | none => exact hnull
    | some t => exact hpoints t
  · cases r.error? with
    | none => exact hnull
    | some x =>
      refine printable_objectChars fun f hf => ?_
      simp only [List.mem_cons, List.not_mem_nil, or_false] at hf
      rcases hf with rfl | rfl | rfl <;> exact hpoints _

theorem hear_line (id : Nat) (r : Report) (outputEnd? : Option (Option ExitStatus)) (behind : List UInt8) :
    hear outputEnd? (encodeUtf8 (r.line id) ++ 10 :: behind) = (.line (r.line id), behind) := by
  have hprintable := printable_chars id r
  have hfeed : '\n' ∉ r.chars id := by
    intro hm
    have := (hprintable _ hm).1
    simp at this
  have hreturn : (r.chars id).getLast? ≠ some '\r' := by
    intro hlast
    have := (hprintable _ (List.mem_of_getLast? hlast)).1
    simp at this
  have hheard := ScriptBench.hear_line hfeed hreturn outputEnd? behind
  rw [← bytes_toList, line, String.toList_ofList]
  exact hheard

theorem answers_iff {id : Nat} (hid : id < UInt64.size) {r : Report} {a : Except EngineError Reply} :
    Answers id (r.line id) a ↔ ∃ reply, r.ToldBy id reply ∧ a = .ok reply := by
  have hline := ofLine?_line hid r
  constructor
  · rintro (⟨hm, _⟩ | ⟨hm⟩)
    · rw [hline] at hm
      obtain ⟨reply, hreply, hm⟩ := Option.map_eq_some_iff.1 hm
      cases hm
      exact ⟨_, reply?_eq_some_iff.1 hreply, rfl⟩
    · rw [hline] at hm
      obtain ⟨reply, _, hm⟩ := Option.map_eq_some_iff.1 hm
      cases hm
  · rintro ⟨reply, hreply, rfl⟩
    refine .result ?_ hreply.id
    rw [hline, reply?_eq_some_iff.2 hreply]
    rfl

theorem whole_iff {r : Report} (id : Nat) : r.Whole ↔ ∃ reply, r.ToldBy id reply := by
  rw [← @reply?_isSome_iff id, Option.isSome_iff_exists]
  exact exists_congr fun reply => reply?_eq_some_iff

theorem answerOfLine?_of_broken {id : Nat} (hid : id < UInt64.size) {r : Report} (h : ¬r.Whole) :
    answerOfLine? id (r.line id) = none := by
  rw [answerOfLine?_eq_none_iff]
  intro a ha
  obtain ⟨reply, hreply, _⟩ := (answers_iff hid).1 ha
  exact h ((whole_iff id).2 ⟨reply, hreply⟩)

theorem listen_of_told {id : Nat} (hid : id < UInt64.size) {r : Report} {reply : Reply} (h : r.ToldBy id reply)
    (outputEnd? : Option (Option ExitStatus)) (behind : List UInt8) :
    listen id outputEnd? (encodeUtf8 (r.line id) ++ 10 :: behind) = (.answered (.ok reply), behind) := by
  have hanswer : Answers id (r.line id) (.ok reply) := (answers_iff hid).2 ⟨reply, h, rfl⟩
  exact listen_of_answer (hear_line id r outputEnd? behind) (answerOfLine?_eq_some_iff.2 hanswer)

theorem listen_of_broken {id : Nat} (hid : id < UInt64.size) {r : Report} (h : ¬r.Whole)
    (outputEnd? : Option (Option ExitStatus)) (behind : List UInt8) :
    listen id outputEnd? (encodeUtf8 (r.line id) ++ 10 :: behind) = listen id outputEnd? behind :=
  listen_of_other (hear_line id r outputEnd? behind) (answerOfLine?_of_broken hid h)

end Report

namespace Worker

open Report

variable {w : Worker}

theorem await_congr {p p' : Process} {id : Nat} (h : p.listen id = p'.listen id) (armed : Bool) :
    ({ w with process := p } : Worker).await armed id = ({ w with process := p' } : Worker).await armed id := by
  have hlisten : ({ w with process := p } : Worker).listen id = ({ w with process := p' } : Worker).listen id := by
    rw [listen, listen, h]
  rw [await, await, hlisten]

theorem await_of_nothing {p : Process} (hopen : p.outputEnd? = none) (hqueue : p.unread = []) (id : Nat) :
    ({ w with process := p } : Worker).await false id = none := by
  have hsilent : p.listen id = (.silence, { p with unread := [] }) := by
    rw [Process.listen, hopen, hqueue, ScriptBench.listen]
    rfl
  rw [await, listen, hsilent]
  rfl

/-- A call reads the line of its report as its answer just if every half of a pair stands in its pair. Else it
passes over the line and goes on waiting. -/
theorem exec_reads_report_iff (w : Worker) (timed : Bool) (code : String) (library? : Option String)
    (module : String) (r : Report) (p : Process) (behind : List UInt8) (hid : w.nextId < UInt64.size)
    (hsent : w.process.send (w.request code library? module).line = .ok p)
    (hqueue : p.unread = encodeUtf8 (r.line w.nextId) ++ 10 :: behind) :
    (r.Whole ↔ ∃ a, Answers w.nextId (r.line w.nextId) a) ∧
    (r.Whole → ∃ reply, r.ToldBy w.nextId reply ∧ w.exec timed code library? module =
      some (.ok reply, { w.begin.2 with process := { p with unread := behind } })) ∧
    (¬r.Whole → w.exec timed code library? module =
      ({ w.begin.2 with process := { p with unread := behind } } : Worker).await
        (timed && w.begin.2.cell?.isSome) w.nextId) ∧
    (¬r.Whole → behind = [] → p.outputEnd? = none → timed = false →
      w.exec timed code library? module = none) := by
  have hskip : ¬r.Whole → w.exec timed code library? module =
      ({ w.begin.2 with process := { p with unread := behind } } : Worker).await
        (timed && w.begin.2.cell?.isSome) w.nextId := by
    intro hbroken
    have hlisten : p.listen w.nextId = ({ p with unread := behind } : Process).listen w.nextId := by
      rw [Process.listen, Process.listen, hqueue, listen_of_broken hid hbroken]
      rfl
    rw [exec_of_sent hsent]
    exact await_congr hlisten _
  refine ⟨?_, ?_, hskip, ?_⟩
  · constructor
    · intro hwhole
      obtain ⟨reply, hreply⟩ := (whole_iff w.nextId).1 hwhole
      exact ⟨.ok reply, (answers_iff hid).2 ⟨reply, hreply, rfl⟩⟩
    · intro hanswer
      obtain ⟨a, ha⟩ := hanswer
      obtain ⟨reply, hreply, _⟩ := (answers_iff hid).1 ha
      exact (whole_iff w.nextId).2 ⟨reply, hreply⟩
  · intro hwhole
    obtain ⟨reply, hreply⟩ := (whole_iff w.nextId).1 hwhole
    have hlisten : p.listen w.nextId = (.answered (.ok reply), { p with unread := behind }) := by
      rw [Process.listen, hqueue, listen_of_told hid hreply]
    refine ⟨reply, hreply, ?_⟩
    rw [exec_of_sent hsent]
    exact await_of_answered hlisten
  · intro hbroken hbehind hopen htimed
    rw [hskip hbroken, hbehind, htimed]
    apply await_of_nothing
    · exact hopen
    · rfl

/-- The halves of a pair may come from two code points. -/
theorem exec_reads_report_iff_split_pair :
    let r : Report := ⟨true, [0xD83D, 0xDE00], [0x0A], none, none⟩
    let p : Process := ⟨⟨⟨false, [], .goesOn⟩, fun _ => ⟨false, [], .goesOn⟩⟩, [], [], [], none,
      encodeUtf8 (r.line 1) ++ [10], .mute⟩
    let w : Worker := ⟨p, "3.12", none, 1⟩
    ∃ reply, r.ToldBy 1 reply ∧ w.exec false "print()" none "lib" =
      some (.ok reply, { w.begin.2 with process := { p with unread := [] } }) := by
  intro r p w
  have hwhole : r.Whole := by
    intro t ht
    simp only [r, texts, Option.toList_none, List.append_nil, List.mem_cons, List.not_mem_nil, or_false] at ht
    rcases ht with rfl | rfl <;> exact ofUnits?_isSome_iff.1 (by decide)
  exact (exec_reads_report_iff w false "print()" none "lib" r p [] (by decide) rfl rfl).2.1 hwhole

/-- A first half alone on the error stream keeps the answer from being recognised. -/
theorem report_unanswered :
    ¬∀ (id : Nat) (r : Report), id < UInt64.size → ∃ a, Answers id (r.line id) a := by
  intro hall
  obtain ⟨a, ha⟩ := hall 1 ⟨true, [], [0xD800], none, none⟩ (by decide)
  have hnone : answerOfLine? 1 (Report.line 1 ⟨true, [], [0xD800], none, none⟩) = none := by decide +kernel
  rw [answerOfLine?_eq_some_iff.2 ha] at hnone
  cases hnone

end Worker

end ScriptBench
