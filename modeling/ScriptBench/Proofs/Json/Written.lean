import Mathlib.Data.List.Forall2
import ScriptBench.Proofs.Json.Reading
import ScriptBench.Proofs.Json.Settled

/-! The texts of values by the grammar of JSON. What is read from one of them, or that it is refused, is told by its
parts. -/
namespace ScriptBench.Json

open Decimal (digitsOf)

variable {α : Type}

/-- What a reader makes of a text that stands alone. -/
def alone (read : Reader α) (text : List Char) : Option α := (read text).toOption.map Prod.fst

/-- A member of an object: the characters of its key between the quotes, and the text of its value. -/
structure MemberText where
  key : List Char
  text : List Char

namespace MemberText

/-- A text of a member. Blanks may stand around its colon. -/
inductive Laid (m : MemberText) : List Char → Prop
  | intro {gap before : List Char} (hgap : Blanks gap) (hbefore : Blanks before) :
      Laid m ('"' :: (m.key ++ '"' :: (gap ++ ':' :: (before ++ m.text))))

def name? (m : MemberText) : Option String := alone readString (m.key ++ ['"'])

/-- The name and the value of a member, if both can be read. -/
def read? (depth : Nat) (m : MemberText) : Option (String × Value) := do
  return (← m.name?, ← alone (readValue depth) m.text)

end MemberText

/-- A text of a value. It may be refused all the same, for a number out of range, for half of a pair or for its depth. -/
inductive Written : List Char → Prop
  | null : Written Value.null.compact
  | bool (b : Bool) : Written (Value.bool b).compact
  | number {text : List Char} (h : WrittenNumber text) : Written text
  | string {chars : List Char} (h : Quoted chars) : Written ('"' :: (chars ++ ['"']))
  | array {parts : List (List Char)} {body : List Char} (h : ∀ part ∈ parts, Written part)
      (hbody : Listed parts body) : Written ('[' :: (body ++ [']']))
  | object {members : List MemberText} {parts : List (List Char)} {body : List Char}
      (hkeys : ∀ m ∈ members, Quoted m.key) (h : ∀ m ∈ members, Written m.text)
      (hparts : List.Forall₂ MemberText.Laid members parts) (hbody : Listed parts body) :
      Written ('\x7b' :: (body ++ ['\x7d']))

/-! Spelled values -/

theorem Quoted.append_spelled {c : Char} {text more : List Char} (h : SpellsChar c text) (hmore : Quoted more) :
    Quoted (text ++ more) := by
  cases h with
  | plain hquote hslash hcontrol => exact .plain hquote hslash hcontrol hmore
  | letter h => exact .letter h hmore
  | unit h => exact .unit h hmore
  | pair hhigh hlow => exact .unit hhigh (.unit hlow hmore)

theorem quoted_of_spellsChars {cs text : List Char} (h : SpellsChars cs text) : Quoted text := by
  induction h with
  | nil => exact .nil
  | cons h _ ih => exact .append_spelled h ih

theorem writtenNumber_digitsOf (n : Nat) : WrittenNumber (digitsOf n) := by
  have hdigits : Digits (digitsOf n) := ⟨Nat.toDigits_ne_nil, fun c hc => isDigit_of_mem_digitsOf hc⟩
  have hzero : (digitsOf n).head? = some '0' → digitsOf n = ['0'] := by
    intro hhead
    by_cases hn : n = 0
    · rw [hn]
      exact Nat.toDigits_zero 10
    · obtain ⟨c, ds, hds, hc⟩ := exists_cons_digitsOf hn
      rw [hds] at hhead
      cases hhead
      exact (hc rfl).elim
  have hnumber := WrittenNumber.intro (show ([] : List Char) ∈ [[], ['-']] by simp) hdigits hzero .none .none
  rwa [List.append_nil, List.append_nil, List.nil_append] at hnumber

mutual

/-- A text that spells a value is one by the grammar. -/
theorem written_of_spells {v : Value} {text : List Char} (h : Spells v text) : Written text := by
  cases h with
  | null => exact .null
  | bool b => exact .bool b
  | nat => exact .number (writtenNumber_digitsOf _)
  | string h =>
    cases h with
    | quoted h => exact .string (quoted_of_spellsChars h)
  | array h hbody => exact .array (written_of_spellsItems h) hbody
  | object h hbody =>
    obtain ⟨ms, hkeys, htexts, hparts⟩ := exists_members_of_spells h
    exact .object hkeys htexts hparts hbody

theorem written_of_spellsItems {items : List Value} {parts : List (List Char)} (h : SpellsItems items parts) :
    ∀ part ∈ parts, Written part := by
  cases h with
  | nil => exact nofun
  | cons h hmore => exact List.forall_mem_cons.2 ⟨written_of_spells h, written_of_spellsItems hmore⟩

theorem exists_members_of_spells {members : List (String × Value)} {parts : List (List Char)}
    (h : SpellsMembers members parts) : ∃ ms : List MemberText, (∀ m ∈ ms, Quoted m.key) ∧
      (∀ m ∈ ms, Written m.text) ∧ List.Forall₂ MemberText.Laid ms parts := by
  cases h with
  | nil => exact ⟨[], nofun, nofun, .nil⟩
  | cons hkey hgap hbefore h hmore =>
    cases hkey with
    | @quoted chars hkey =>
      obtain ⟨ms, hkeys, htexts, hparts⟩ := exists_members_of_spells hmore
      refine ⟨⟨chars, _⟩ :: ms, List.forall_mem_cons.2 ⟨quoted_of_spellsChars hkey, hkeys⟩,
        List.forall_mem_cons.2 ⟨written_of_spells h, htexts⟩, .cons ?_ hparts⟩
      rw [List.cons_append, List.append_assoc, List.singleton_append]
      exact .intro hgap hbefore

end
/-! Readers -/

theorem begins_of_number {text : List Char} (h : WrittenNumber text) :
    ∃ c more, text = c :: more ∧ (c == '-' || c.isDigit) = true := by
  obtain ⟨hsign, ⟨hne, hdigits⟩, -, -, -⟩ := h
  obtain ⟨d, digits, rfl⟩ := List.exists_cons_of_ne_nil hne
  simp only [List.mem_cons, List.not_mem_nil, or_false] at hsign
  rcases hsign with rfl | rfl
  · exact ⟨d, _, rfl, by simp [hdigits d (by simp)]⟩
  · exact ⟨'-', _, rfl, rfl⟩

theorem begins_of_written {text : List Char} (h : Written text) : Begins text := by
  cases h with
  | null => exact ⟨'n', _, rfl, rfl, by decide⟩
  | bool b => cases b <;> exact ⟨_, _, rfl, rfl, by decide⟩
  | number h =>
    obtain ⟨c, more, rfl, hc⟩ := begins_of_number h
    rcases Bool.or_eq_true_iff.1 hc with hc | hc
    · rw [beq_iff_eq.1 hc]
      exact ⟨'-', more, rfl, rfl, by decide⟩
    · refine ⟨c, more, rfl, isSpace_of_isDigit hc, ?_⟩
      rintro rfl
      cases hc
  | string => exact ⟨'"', _, rfl, rfl, by decide⟩
  | array => exact ⟨'[', _, rfl, rfl, by decide⟩
  | object => exact ⟨'\x7b', _, rfl, rfl, by decide⟩

theorem Settled.read_append {read : Reader α} {text rest : List Char} (h : Settled read NumberEnds text)
    (hrest : NumberEnds rest) : (read (text ++ rest)).toOption = (alone read text).map (·, rest) := by
  obtain ⟨a?, ha⟩ := h
  have hnil := ha [] numberEnds_nil
  rw [List.append_nil] at hnil
  rw [alone, hnil, ha rest hrest, Option.map_map, Option.map_map]
  rfl

/-! Lists -/

section

variable {item : Reader α} {parts : List (List Char)}

/-- An item and the items behind it are read together. -/
theorem toOption_read_cons {text rest last : List Char} {a? : Option α} {as? : Option (List α)}
    {more : List Char → Except Fault (List α × List Char)} (hread : (item text).toOption = a?.map (·, rest))
    (hmore : (more rest).toOption = as?.map (·, last)) :
    (item text >>= fun p => more p.2 >>= fun q => .ok (p.1 :: q.1, q.2)).toOption =
      (a?.bind fun a => as?.map (a :: ·)).map (·, last) := by
  rw [toOption_bind, hread]
  cases a? with
  | none => rfl
  | some a =>
    rw [Option.map_some, Option.bind_some, toOption_bind, hmore]
    cases as? <;> rfl

theorem mapM_cons_eq {part : List Char} :
    (part :: parts).mapM (alone item) = (alone item part).bind fun a => (parts.mapM (alone item)).map (a :: ·) := by
  rw [List.mapM_cons]
  cases alone item part with
  | none => rfl
  | some a => cases parts.mapM (alone item) <;> rfl

theorem readMoreElements_settled (hbegins : ∀ part ∈ parts, Begins part)
    (h : ∀ part ∈ parts, Settled item NumberEnds part) {behind : List Char} (hbehind : Follows parts behind) {fuel : Nat}
    (hfuel : parts.length < fuel) (rest : List Char) :
    (readMoreElements item fuel (behind ++ ']' :: rest)).toOption = (parts.mapM (alone item)).map (·, rest) := by
  induction hbehind generalizing fuel with
  | nil hgap =>
    obtain ⟨fuel, rfl⟩ := Nat.exists_eq_succ_of_ne_zero (Nat.ne_zero_of_lt hfuel)
    rw [readMoreElements, skipSpace_blanks hgap]
    rfl
  | @cons part gap before behind parts hgap hbefore hbehind ih =>
    obtain ⟨fuel, rfl⟩ := Nat.exists_eq_succ_of_ne_zero (Nat.ne_zero_of_lt hfuel)
    have hmore := ih (fun p hp => hbegins p (by simp [hp])) (fun p hp => h p (by simp [hp]))
      (Nat.lt_of_succ_lt_succ hfuel)
    have hends := numberEnds_of_follows hbehind rest (c := ']') (by decide)
    have hread := (h part (by simp)).read_append hends
    have hbegin := hbegins part (by simp)
    have hskip := skipSpace_of_begins hbegin (behind ++ ']' :: rest)
    obtain ⟨c, more, rfl, -, hc⟩ := hbegin
    simp only [List.append_assoc, List.cons_append] at hskip hread ⊢
    rw [readMoreElements, skipSpace_blanks hgap, skipSpace_of_not_space rfl]
    simp only
    rw [skipSpace_blanks hbefore, hskip]
    split
    case h_1 heq => cases heq
    case h_2 heq =>
      cases heq
      exact (hc rfl).elim
    case h_3 =>
      rw [mapM_cons_eq]
      exact toOption_read_cons hread hmore

theorem readElements_settled (hbegins : ∀ part ∈ parts, Begins part)
    (h : ∀ part ∈ parts, Settled item NumberEnds part) {body : List Char} (hbody : Listed parts body)
    (rest : List Char) :
    (readElements item (body ++ ']' :: rest)).toOption = (parts.mapM (alone item)).map (·, rest) := by
  cases hbody with
  | nil hgap =>
    rw [readElements, skipSpace_blanks hgap]
    rfl
  | @cons part before behind parts hbefore hbehind =>
    have hlength := length_le_of_follows hbehind
    have hfuel : parts.length < (behind ++ ']' :: rest).length + 1 := by
      rw [List.length_append]
      exact Nat.lt_succ_of_le (Nat.le_add_right_of_le hlength)
    have hmore := readMoreElements_settled (fun p hp => hbegins p (by simp [hp])) (fun p hp => h p (by simp [hp]))
      hbehind hfuel rest
    have hends := numberEnds_of_follows hbehind rest (c := ']') (by decide)
    have hread := (h part (by simp)).read_append hends
    have hbegin := hbegins part (by simp)
    have hskip := skipSpace_of_begins hbegin (behind ++ ']' :: rest)
    obtain ⟨c, more, rfl, -, hc⟩ := hbegin
    simp only [List.append_assoc, List.cons_append] at hskip hread ⊢
    rw [readElements, skipSpace_blanks hbefore, hskip]
    split
    case h_1 heq => cases heq
    case h_2 heq =>
      cases heq
      exact (hc rfl).elim
    case h_3 =>
      rw [mapM_cons_eq]
      let behindItem := fun rest => readMoreElements item (rest.length + 1) rest
      exact @toOption_read_cons α item _ _ _ _ _ behindItem hread hmore

end

/-! Objects -/

section

variable {depth : Nat}

theorem readValue_before {before : List Char} (h : Blanks before) (depth : Nat) (text : List Char) :
    (readValue depth (before ++ text)).toOption = (readValue depth text).toOption := by
  cases depth with
  | zero => rfl
  | succ depth => rw [readValue_blanks h]

theorem readMember_laid {m : MemberText} (hkey : Quoted m.key) (h : Settled (readValue depth) NumberEnds m.text)
    {part rest : List Char} (hpart : m.Laid part) (hrest : NumberEnds rest) (front : List (String × Value)) :
    ∃ more, part = '"' :: more ∧ (readMember (readValue depth) front (more ++ rest)).toOption =
      (m.read? depth).map fun v => (front ++ [v], rest) := by
  obtain ⟨hgap, hbefore⟩ := hpart
  refine ⟨_, rfl, ?_⟩
  obtain ⟨s?, hs⟩ := settled_string hkey
  have hname : m.name? = s? := by
    rw [MemberText.name?, alone, hs [], Option.map_map]
    exact Option.map_id'
  simp only [List.append_assoc, List.cons_append]
  rw [readMember, toOption_bind, hs, MemberText.read?, hname]
  cases s? with
  | none => rfl
  | some s =>
    simp only [Option.map_some, Option.bind_some]
    rw [readColon_blanks hgap]
    change (readValue depth _ >>= _).toOption = _
    rw [toOption_bind, readValue_before hbefore, h.read_append hrest]
    cases alone (readValue depth) m.text <;> rfl

variable {members : List MemberText} {parts : List (List Char)}

theorem readMoreMembers_laid (hkeys : ∀ m ∈ members, Quoted m.key)
    (h : ∀ m ∈ members, Settled (readValue depth) NumberEnds m.text)
    (hparts : List.Forall₂ MemberText.Laid members parts) {behind : List Char} (hbehind : Follows parts behind)
    {fuel : Nat} (hfuel : parts.length < fuel) (front : List (String × Value)) (rest : List Char) :
    (readMoreMembers (readMember (readValue depth)) fuel front (behind ++ '\x7d' :: rest)).toOption =
      (members.mapM (MemberText.read? depth)).map fun vs => (front ++ vs, rest) := by
  induction hparts generalizing behind fuel front with
  | nil =>
    obtain ⟨fuel, rfl⟩ := Nat.exists_eq_succ_of_ne_zero (Nat.ne_zero_of_lt hfuel)
    cases hbehind with
    | nil hgap =>
      rw [readMoreMembers, skipSpace_blanks hgap, List.mapM_nil]
      simp only [pure, Option.map_some, List.append_nil]
      rfl
  | @cons m part members parts hpart _ ih =>
    obtain ⟨fuel, rfl⟩ := Nat.exists_eq_succ_of_ne_zero (Nat.ne_zero_of_lt hfuel)
    cases hbehind with
    | @cons _ gap before behind _ hgap hbefore hbehind =>
      have hmore := fun front => ih (fun p hp => hkeys p (by simp [hp])) (fun p hp => h p (by simp [hp])) hbehind
        (Nat.lt_of_succ_lt_succ hfuel) front
      have hends := numberEnds_of_follows hbehind rest (c := '\x7d') (by decide)
      obtain ⟨chars, rfl, hread⟩ := readMember_laid (hkeys m (by simp)) (h m (by simp)) hpart hends front
      simp only [List.append_assoc, List.cons_append]
      rw [readMoreMembers, skipSpace_blanks hgap, skipSpace_of_not_space rfl]
      simp only
      rw [skipSpace_blanks hbefore, skipSpace_of_not_space rfl]
      simp only
      rw [toOption_bind, hread, List.mapM_cons]
      cases m.read? depth with
      | none => rfl
      | some v =>
        simp only [Option.map_some, Option.bind_some]
        rw [hmore]
        cases List.mapM (MemberText.read? depth) members with
        | none => rfl
        | some vs => simp

theorem readMembers_laid (hkeys : ∀ m ∈ members, Quoted m.key)
    (h : ∀ m ∈ members, Settled (readValue depth) NumberEnds m.text)
    (hparts : List.Forall₂ MemberText.Laid members parts) {body : List Char} (hbody : Listed parts body)
    (rest : List Char) :
    (readMembers (readMember (readValue depth)) [] (body ++ '\x7d' :: rest)).toOption =
      (members.mapM (MemberText.read? depth)).map (·, rest) := by
  cases hbody with
  | nil hgap =>
    cases hparts
    rw [readMembers, skipSpace_blanks hgap]
    rfl
  | @cons part before behind parts hbefore hbehind =>
    cases hparts with
    | @cons m _ members _ hpart hparts =>
      have hlength := length_le_of_follows hbehind
      have hfuel : parts.length < (behind ++ '\x7d' :: rest).length + 1 := by
        rw [List.length_append]
        exact Nat.lt_succ_of_le (Nat.le_add_right_of_le hlength)
      have hmore := fun front => readMoreMembers_laid (fun p hp => hkeys p (by simp [hp]))
        (fun p hp => h p (by simp [hp])) hparts hbehind hfuel front rest
      have hends := numberEnds_of_follows hbehind rest (c := '\x7d') (by decide)
      obtain ⟨chars, rfl, hread⟩ := readMember_laid (hkeys m (by simp)) (h m (by simp)) hpart hends []
      simp only [List.append_assoc, List.cons_append]
      rw [readMembers, skipSpace_blanks hbefore, skipSpace_of_not_space rfl]
      simp only
      rw [toOption_bind, hread, List.mapM_cons]
      cases m.read? depth with
      | none => rfl
      | some v =>
        simp only [Option.map_some, Option.bind_some]
        rw [hmore]
        cases List.mapM (MemberText.read? depth) members <;> rfl

end

/-! Values -/

theorem readValue_array {parts : List (List Char)} (hbegins : ∀ part ∈ parts, Begins part) {depth : Nat}
    (h : ∀ part ∈ parts, Settled (readValue depth) NumberEnds part) {body : List Char} (hbody : Listed parts body)
    (rest : List Char) :
    (readValue (depth + 1) ('[' :: (body ++ ']' :: rest))).toOption =
      if depth = 0 then none else (parts.mapM (alone (readValue depth))).map fun vs => (.array vs, rest) := by
  rw [readValue, skipSpace_of_not_space rfl]
  simp only
  split
  · rfl
  · rw [toOption_bind, readElements_settled hbegins h hbody]
    cases parts.mapM (alone (readValue depth)) <;> rfl

theorem readValue_object {members : List MemberText} (hkeys : ∀ m ∈ members, Quoted m.key) {depth : Nat}
    (h : ∀ m ∈ members, Settled (readValue depth) NumberEnds m.text) {parts : List (List Char)}
    (hparts : List.Forall₂ MemberText.Laid members parts) {body : List Char} (hbody : Listed parts body)
    (rest : List Char) :
    (readValue (depth + 1) ('\x7b' :: (body ++ '\x7d' :: rest))).toOption =
      if depth = 0 then none else (members.mapM (MemberText.read? depth)).map fun vs => (.object vs, rest) := by
  rw [readValue, skipSpace_of_not_space rfl]
  simp only
  split
  · rfl
  · rw [toOption_bind, readMembers_laid hkeys h hparts hbody]
    cases members.mapM (MemberText.read? depth) <;> rfl

theorem readValue_number {text : List Char} (h : WrittenNumber text) (depth : Nat) (rest : List Char) :
    (readValue (depth + 1) (text ++ rest)).toOption =
      (readNumber (text ++ rest)).toOption.map fun p => (.number p.1, p.2) := by
  obtain ⟨c, more, rfl, hc⟩ := begins_of_number h
  rw [List.cons_append]
  rcases Bool.or_eq_true_iff.1 hc with hc | hc
  · rw [beq_iff_eq.1 hc]
    change (readNumber _ >>= _).toOption = _
    rw [toOption_bind]
    cases (readNumber ('-' :: (more ++ rest))).toOption <;> rfl
  · rw [readValue_of_isDigit hc]
    cases readNumber (c :: (more ++ rest)) <;> rfl

/-- What is read from a value at some depth, or that it is refused, does not depend on what stands behind it. -/
theorem settled_value {text : List Char} (h : Written text) (depth : Nat) :
    Settled (readValue depth) NumberEnds text := by
  induction h generalizing depth with
  | null =>
    cases depth with
    | zero => exact ⟨none, fun _ _ => rfl⟩
    | succ depth => exact ⟨some .null, fun _ _ => rfl⟩
  | bool b =>
    cases depth with
    | zero => exact ⟨none, fun _ _ => rfl⟩
    | succ depth => cases b <;> exact ⟨some (.bool _), fun _ _ => rfl⟩
  | number h =>
    cases depth with
    | zero => exact ⟨none, fun _ _ => rfl⟩
    | succ depth =>
      obtain ⟨n?, hn⟩ := settled_number h
      refine ⟨n?.map .number, fun rest hrest => ?_⟩
      rw [readValue_number h, hn rest hrest, Option.map_map, Option.map_map]
      rfl
  | string h =>
    cases depth with
    | zero => exact ⟨none, fun _ _ => rfl⟩
    | succ depth =>
      obtain ⟨s?, hs⟩ := settled_string h
      refine ⟨s?.map .string, fun rest _ => ?_⟩
      rw [List.cons_append, List.append_assoc, List.singleton_append, readValue_quote, toOption_bind, hs]
      cases s? <;> rfl
  | @array parts body h hbody ih =>
    cases depth with
    | zero => exact ⟨none, fun _ _ => rfl⟩
    | succ depth =>
      refine ⟨if depth = 0 then none else (parts.mapM (alone (readValue depth))).map .array, fun rest _ => ?_⟩
      rw [List.cons_append, List.append_assoc, List.singleton_append,
        readValue_array (fun p hp => begins_of_written (h p hp)) (fun p hp => ih p hp depth) hbody]
      split
      · rfl
      · rw [Option.map_map]
        rfl
  | @object members parts body hkeys h hparts hbody ih =>
    cases depth with
    | zero => exact ⟨none, fun _ _ => rfl⟩
    | succ depth =>
      refine ⟨if depth = 0 then none else (members.mapM (MemberText.read? depth)).map .object, fun rest _ => ?_⟩
      rw [List.cons_append, List.append_assoc, List.singleton_append,
        readValue_object hkeys (fun m hm => ih m hm depth) hparts hbody]
      split
      · rfl
      · rw [Option.map_map]
        rfl

theorem alone_null (depth : Nat) : alone (readValue (depth + 1)) Value.null.compact = some .null := rfl

theorem alone_bool (depth : Nat) (b : Bool) : alone (readValue (depth + 1)) (Value.bool b).compact = some (.bool b) := by
  cases b <;> rfl

theorem alone_number {text : List Char} (h : WrittenNumber text) (depth : Nat) :
    alone (readValue (depth + 1)) text = (alone readNumber text).map .number := by
  have hread := readValue_number h depth []
  rw [List.append_nil] at hread
  rw [alone, alone, hread, Option.map_map, Option.map_map]
  rfl

theorem alone_string (chars : List Char) (depth : Nat) :
    alone (readValue (depth + 1)) ('"' :: (chars ++ ['"'])) = (alone readString (chars ++ ['"'])).map .string := by
  rw [alone, alone, readValue_quote, toOption_bind]
  cases readString (chars ++ ['"']) <;> rfl

theorem alone_array {parts : List (List Char)} (h : ∀ part ∈ parts, Written part) {body : List Char}
    (hbody : Listed parts body) (depth : Nat) :
    alone (readValue (depth + 1)) ('[' :: (body ++ [']'])) =
      if depth = 0 then none else (parts.mapM (alone (readValue depth))).map .array := by
  rw [alone, readValue_array (fun p hp => begins_of_written (h p hp)) (fun p hp => settled_value (h p hp) depth) hbody]
  split
  · rfl
  · rw [Option.map_map]
    rfl

theorem alone_object {members : List MemberText} (hkeys : ∀ m ∈ members, Quoted m.key)
    (h : ∀ m ∈ members, Written m.text) {parts : List (List Char)}
    (hparts : List.Forall₂ MemberText.Laid members parts) {body : List Char} (hbody : Listed parts body) (depth : Nat) :
    alone (readValue (depth + 1)) ('\x7b' :: (body ++ ['\x7d'])) =
      if depth = 0 then none else (members.mapM (MemberText.read? depth)).map .object := by
  rw [alone, readValue_object hkeys (fun m hm => settled_value (h m hm) depth) hparts hbody]
  split
  · rfl
  · rw [Option.map_map]
    rfl

theorem mapM_of_mapM {β : Type} {f g : α → Option β} {as : List α} {bs : List β} (h : as.mapM f = some bs)
    (hfg : ∀ a ∈ as, ∀ b ∈ bs, f a = some b → g a = some b) : as.mapM g = some bs := by
  induction as generalizing bs with
  | nil => exact h
  | cons a as ih =>
    rw [List.mapM_cons] at h ⊢
    obtain ⟨b, hb, h⟩ := Option.bind_eq_some_iff.1 h
    obtain ⟨bs, hbs, h⟩ := Option.bind_eq_some_iff.1 h
    cases h
    rw [hfg a (by simp) b (by simp) hb, ih hbs fun a ha b hb => hfg a (by simp [ha]) b (by simp [hb])]
    rfl

/-- A value that is read at some depth is read at each depth above its height. -/
theorem alone_of_height {text : List Char} (h : Written text) {depth : Nat} {v : Value}
    (hv : alone (readValue depth) text = some v) {depth' : Nat} (hheight : v.height < depth') :
    alone (readValue depth') text = some v := by
  obtain ⟨depth', rfl⟩ := Nat.exists_eq_succ_of_ne_zero (Nat.ne_zero_of_lt hheight)
  induction h generalizing depth v depth' with
  | null =>
    cases depth with
    | zero => cases hv
    | succ depth =>
      rw [alone_null] at hv ⊢
      exact hv
  | bool b =>
    cases depth with
    | zero => cases hv
    | succ depth =>
      rw [alone_bool] at hv ⊢
      exact hv
  | number h =>
    cases depth with
    | zero => cases hv
    | succ depth =>
      rw [alone_number h] at hv ⊢
      exact hv
  | string h =>
    cases depth with
    | zero => cases hv
    | succ depth =>
      rw [alone_string] at hv ⊢
      exact hv
  | @array parts body h hbody ih =>
    cases depth with
    | zero => cases hv
    | succ depth =>
      rw [alone_array h hbody] at hv ⊢
      split at hv
      · cases hv
      · obtain ⟨vs, hvs, rfl⟩ := Option.map_eq_some_iff.1 hv
        rw [Value.height] at hheight
        obtain ⟨depth', rfl⟩ := Nat.exists_eq_succ_of_ne_zero (show depth' ≠ 0 by omega)
        rw [if_neg (by omega), mapM_of_mapM hvs, Option.map_some]
        intro part hpart u hu hread
        have hle := height_le_of_mem hu
        exact ih part hpart hread depth' (by omega)
  | @object members parts body hkeys h hparts hbody ih =>
    cases depth with
    | zero => cases hv
    | succ depth =>
      rw [alone_object hkeys h hparts hbody] at hv ⊢
      split at hv
      · cases hv
      · obtain ⟨vs, hvs, rfl⟩ := Option.map_eq_some_iff.1 hv
        rw [Value.height] at hheight
        obtain ⟨depth', rfl⟩ := Nat.exists_eq_succ_of_ne_zero (show depth' ≠ 0 by omega)
        rw [if_neg (by omega), mapM_of_mapM hvs, Option.map_some]
        intro m hm u hu hread
        obtain ⟨name, hname, hread⟩ := Option.bind_eq_some_iff.1 hread
        obtain ⟨w, hw, hread⟩ := Option.bind_eq_some_iff.1 hread
        cases hread
        have hle : w.height ≤ membersHeight vs := height_le_of_mem_members hu
        rw [MemberText.read?, hname, ih m hm hw depth' (by omega)]
        rfl

/-! Texts of objects -/

/-- A text is an object with these members, in this order. Blanks may stand around it. -/
inductive ObjectText (members : List MemberText) : List Char → Prop
  | intro {before body behind : List Char} {parts : List (List Char)} (hbefore : Blanks before)
      (hbehind : Blanks behind) (hkeys : ∀ m ∈ members, Quoted m.key) (h : ∀ m ∈ members, Written m.text)
      (hparts : List.Forall₂ MemberText.Laid members parts) (hbody : Listed parts body) :
      ObjectText members (before ++ '\x7b' :: (body ++ '\x7d' :: behind))

theorem ObjectText.written {members : List MemberText} {text : List Char} (h : ObjectText members text) :
    ∀ m ∈ members, Written m.text := by
  cases h with
  | intro _ _ _ h => exact h

/-- An object is read if all its members are, and refused if one of them is. -/
theorem alone_objectText {members : List MemberText} {text : List Char} (h : ObjectText members text) {depth : Nat}
    (hdepth : depth ≠ 0) :
    alone (readValue (depth + 1)) text = (members.mapM (MemberText.read? depth)).map .object := by
  cases h with
  | intro hbefore _ hkeys h hparts hbody =>
    rw [alone, readValue_before hbefore, readValue_object hkeys (fun m hm => settled_value (h m hm) depth) hparts hbody,
      if_neg hdepth, Option.map_map]
    rfl

/-- A line is parsed just as it is read, if only blanks stand behind what is read. -/
theorem parse_of_read {line : String} {v? : Option Value} {behind : List Char} (hbehind : Blanks behind)
    (h : (readValue depthLimit line.toList).toOption = v?.map (·, behind)) : (Value.parse line).toOption = v? := by
  have hskip : skipSpace behind = [] := by
    have happend := skipSpace_blanks hbehind []
    rwa [List.append_nil] at happend
  unfold Value.parse parse
  cases hread : readValue depthLimit line.toList with
  | error f =>
    rw [hread] at h
    cases v? with
    | none => simp only [hread, Except.toOption]
    | some v => cases h
  | ok p =>
    rw [hread] at h
    cases v? with
    | none => cases h
    | some v =>
      cases h
      simp only [hread, hskip, Except.toOption]

theorem parse_objectText {members : List MemberText} {line : String} (h : ObjectText members line.toList) :
    (Value.parse line).toOption = (members.mapM (MemberText.read? (depthLimit - 1))).map .object := by
  generalize htext : line.toList = text at h
  cases h with
  | @intro _ _ behind _ hbefore hbehind hkeys h hparts hbody =>
    have hread := readValue_object hkeys (fun m hm => settled_value (h m hm) (depthLimit - 1)) hparts hbody behind
    rw [if_neg (by decide)] at hread
    refine parse_of_read hbehind ?_
    rw [htext, readValue_before hbefore, Option.map_map]
    exact hread

theorem alone_of_parse {text : List Char} {v : Value} (h : Value.parse (.ofList text) = .ok v) :
    alone (readValue depthLimit) text = some v := by
  obtain ⟨rest, hread⟩ := read_of_parse h
  rw [String.toList_ofList] at hread
  rw [alone, hread]
  rfl

/-- What is read from a text at some depth is what it is parsed as, if it is not too deep. -/
theorem parse_of_alone {text : List Char} (h : Written text) {depth : Nat} {v : Value}
    (hv : alone (readValue depth) text = some v) (hheight : v.height < depthLimit) :
    Value.parse (.ofList text) = .ok v := by
  have hread := (settled_value h depthLimit).read_append numberEnds_nil
  rw [alone_of_height h hv hheight, List.append_nil] at hread
  refine eq_ok_of_toOption (parse_of_read blanks_nil ?_)
  rwa [String.toList_ofList]

end ScriptBench.Json
