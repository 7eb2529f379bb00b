import ScriptBench.Json.Record
import ScriptBench.Proofs.Json.Spelling

/-! Readers take every text of the values that they are for. -/
namespace ScriptBench.Json

variable {α σ : Type}

/-- A reader takes a value for something, by each of its texts and with blanks in front. -/
def Takes (item : Reader α) (v : Value) (a : α) : Prop :=
  ∀ ⦃before text rest : List Char⦄, Blanks before → Spells v text → NumberEnds rest →
    item (before ++ (text ++ rest)) = .ok (a, rest)

/-- A text begins with something that is neither a blank nor the end of a list. -/
def Begins (text : List Char) : Prop := ∃ c more, text = c :: more ∧ isSpace c = false ∧ c ≠ ']'

theorem exists_cons_of_digits (n : Nat) :
    ∃ c more, Decimal.digitsOf n = c :: more ∧ c.isDigit = true := by
  cases hdigits : Decimal.digitsOf n with
  | nil => exact (Nat.toDigits_ne_nil hdigits).elim
  | cons c more => exact ⟨c, more, rfl, isDigit_of_mem_digitsOf (n := n) (by rw [hdigits]; simp)⟩

theorem begins_of_spells {v : Value} {text : List Char} (h : Spells v text) : Begins text := by
  cases h with
  | null => exact ⟨'n', _, rfl, rfl, by decide⟩
  | bool b => cases b <;> exact ⟨_, _, rfl, rfl, by decide⟩
  | @nat n =>
    obtain ⟨c, more, hdigits, hc⟩ := exists_cons_of_digits n
    refine ⟨c, more, hdigits, isSpace_of_isDigit hc, ?_⟩
    rintro rfl
    cases hc
  | string h =>
    cases h
    exact ⟨'"', _, rfl, rfl, by decide⟩
  | array => exact ⟨'[', _, rfl, rfl, by decide⟩
  | object => exact ⟨'\x7b', _, rfl, rfl, by decide⟩

theorem skipSpace_of_begins {text : List Char} (h : Begins text) (rest : List Char) :
    skipSpace (text ++ rest) = text ++ rest := by
  obtain ⟨c, more, rfl, hspace, _⟩ := h
  rw [List.cons_append, skipSpace_of_not_space hspace]

theorem skipSpace_spelled {v : Value} {before text : List Char} (hbefore : Blanks before) (h : Spells v text)
    (rest : List Char) : skipSpace (before ++ (text ++ rest)) = text ++ rest := by
  rw [skipSpace_blanks hbefore, skipSpace_of_begins (begins_of_spells h)]

/-- A text is read as a whole just as in front of nothing. -/
theorem parse_of_takes {item : Reader α} {v : Value} {a : α} (h : Takes item v a) {text : String}
    (htext : Spells v text.toList) : parse item text = .ok a := by
  have hread := h blanks_nil htext numberEnds_nil
  rw [List.nil_append, List.append_nil] at hread
  unfold parse
  simp only [hread]
  rfl

/-! Texts, truth values and numbers -/

theorem takes_textAs (expected s : String) : Takes (readTextAs expected) (.string s) s := by
  intro before text rest hbefore h _
  have hskip := skipSpace_spelled hbefore h rest
  cases h with
  | string h =>
    cases h with
    | quoted h =>
      rw [List.cons_append, List.append_assoc, List.singleton_append] at hskip ⊢
      rw [readTextAs, hskip]
      exact readString_of_spellsChars h rest

theorem takes_text (s : String) : Takes readText (.string s) s := takes_textAs "a string" s

theorem takes_parsed {expected s : String} {parse : String → Except String α} {a : α} (h : parse s = .ok a) :
    Takes (readParsed expected parse) (.string s) a := by
  intro before text rest hbefore htext hrest
  have hread := takes_textAs expected s hbefore htext hrest
  simp only [readParsed, hread, bind, Except.bind, h]
  rfl

theorem takes_variant {variants : List (String × α)} {s : String} {a : α} (h : variants.lookup s = some a) :
    Takes (readVariant variants) (.string s) a := by
  intro before text rest hbefore htext _
  have hskip := skipSpace_spelled hbefore htext rest
  cases htext with
  | string htext =>
    cases htext with
    | quoted htext =>
      have hread := readString_of_spellsChars htext rest
      rw [List.cons_append, List.append_assoc, List.singleton_append] at hskip ⊢
      rw [readVariant, hskip]
      simp only [readVariantName, hread, bind, Except.bind, h]
      rfl

theorem takes_bool (b : Bool) : Takes readBool (.bool b) b := by
  intro before text rest hbefore htext _
  have hskip := skipSpace_spelled hbefore htext rest
  cases htext with
  | bool =>
    rw [readBool, hskip]
    cases b <;> rfl

theorem takes_bounded (expected : String) {low high : Int} {n : Nat} (hlow : low ≤ n) (hhigh : (n : Int) ≤ high) :
    Takes (readBounded expected low high) (.nat n) n := by
  intro before text rest hbefore htext hrest
  have hskip := skipSpace_spelled hbefore htext rest
  cases htext with
  | @nat m _ hm hsize =>
    obtain rfl : n = m := Int.ofNat_inj.1 hm
    obtain ⟨c, more, hdigits, hc⟩ := exists_cons_of_digits n
    have hread := readNumber_digitsOf hsize hrest
    rw [hdigits, List.cons_append] at hread
    rw [hdigits, List.cons_append] at hskip ⊢
    rw [readBounded, hskip]
    simp only [hc, Bool.or_true, if_true, hread, bind, Except.bind]
    rw [if_pos ⟨hlow, hhigh⟩]
    rfl

theorem takes_uint32 (n : UInt32) : Takes readUInt32 (.nat n.toNat) n := by
  intro before text rest hbefore htext hrest
  have hlt := n.toNat_lt
  have hhigh : (n.toNat : Int) ≤ 4294967295 := by omega
  have hread := takes_bounded "u32" (Int.natCast_nonneg n.toNat) hhigh hbefore htext hrest
  have hback : UInt32.ofNat (n.toNat : Int).toNat = n := UInt32.ofNat_toNat
  simp only [readUInt32, hread, bind, Except.bind, hback]
  rfl

theorem takes_uint64As (expected : String) (n : UInt64) : Takes (readUInt64As expected) (.nat n.toNat) n := by
  intro before text rest hbefore htext hrest
  have hlt := n.toNat_lt
  have hhigh : (n.toNat : Int) ≤ 18446744073709551615 := by omega
  have hread := takes_bounded expected (Int.natCast_nonneg n.toNat) hhigh hbefore htext hrest
  have hback : UInt64.ofNat (n.toNat : Int).toNat = n := UInt64.ofNat_toNat
  simp only [readUInt64As, hread, bind, Except.bind, hback]
  rfl

/-! What may be absent -/

theorem takes_null (item : Reader α) : Takes (readOption item) .null none := by
  intro before text rest hbefore htext _
  have hskip := skipSpace_spelled hbefore htext rest
  cases htext with
  | null =>
    rw [readOption, hskip]
    rfl

theorem ne_of_spells {v : Value} {c : Char} {more : List Char} (h : Spells v (c :: more)) (hv : v ≠ .null) :
    c ≠ 'n' := by
  rintro rfl
  generalize htext : 'n' :: more = text at h
  cases h with
  | null => exact hv rfl
  | bool b => cases b <;> cases htext
  | @nat n =>
    obtain ⟨c, ds, hdigits, hc⟩ := exists_cons_of_digits n
    rw [hdigits] at htext
    cases htext
    cases hc
  | string h =>
    cases h
    cases htext
  | array => cases htext
  | object => cases htext

theorem takes_some {item : Reader α} {v : Value} {a : α} (hv : v ≠ .null) (h : Takes item v a) :
    Takes (readOption item) v (some a) := by
  intro before text rest hbefore htext hrest
  have hskip := skipSpace_spelled hbefore htext rest
  have hread := h blanks_nil htext hrest
  obtain ⟨c, more, rfl, _⟩ := begins_of_spells htext
  have hc := ne_of_spells htext hv
  rw [readOption, hskip]
  rw [List.nil_append] at hread
  rw [List.cons_append] at hread ⊢
  split
  case h_1 heq =>
    cases heq
    exact (hc rfl).elim
  case h_2 => rw [hread]; rfl

theorem takes_text? (s? : Option String) : Takes (readOption readText) (.text? s?) s? := by
  cases s? with
  | none => exact takes_null _
  | some s => exact takes_some (by intro h; cases h) (takes_text s)

/-! Lists -/

theorem numberEnds_of_blanks {gap : List Char} (h : Blanks gap) {c : Char} (rest : List Char)
    (hc : c.isDigit = false ∧ c ≠ '.' ∧ isExponentMark c = false) : NumberEnds (gap ++ c :: rest) := by
  cases gap with
  | nil => exact numberEnds_cons rest hc
  | cons b gap =>
    refine numberEnds_cons _ ?_
    have hb := h b (by simp)
    simp only [isSpace, Bool.or_eq_true, beq_iff_eq] at hb
    rcases hb with ((rfl | rfl) | rfl) | rfl <;> decide

theorem numberEnds_of_follows {parts : List (List Char)} {behind : List Char} (h : Follows parts behind) {c : Char}
    (rest : List Char) (hc : c.isDigit = false ∧ c ≠ '.' ∧ isExponentMark c = false) :
    NumberEnds (behind ++ c :: rest) := by
  cases h with
  | nil h => exact numberEnds_of_blanks h rest hc
  | cons hgap =>
    rw [List.append_assoc, List.cons_append]
    exact numberEnds_of_blanks hgap _ (by decide)

theorem length_le_of_follows {parts : List (List Char)} {behind : List Char} (h : Follows parts behind) :
    parts.length ≤ behind.length := by
  induction h with
  | nil => exact Nat.zero_le _
  | cons _ _ _ ih =>
    simp only [List.length_append, List.length_cons]
    omega

section

variable {item : Reader α} {print : α → Value}

theorem readMoreElements_follows {as : List α} (h : ∀ a ∈ as, Takes item (print a) a) {parts : List (List Char)}
    {behind : List Char} (hparts : SpellsItems (as.map print) parts) (hbehind : Follows parts behind) {fuel : Nat}
    (hfuel : parts.length < fuel) (rest : List Char) :
    readMoreElements item fuel (behind ++ ']' :: rest) = .ok (as, rest) := by
  induction as generalizing parts behind fuel with
  | nil =>
    obtain ⟨fuel, rfl⟩ := Nat.exists_eq_succ_of_ne_zero (Nat.ne_zero_of_lt hfuel)
    cases hparts
    cases hbehind with
    | nil hgap =>
      rw [readMoreElements, skipSpace_blanks hgap]
      rfl
  | cons a as ih =>
    obtain ⟨fuel, rfl⟩ := Nat.exists_eq_succ_of_ne_zero (Nat.ne_zero_of_lt hfuel)
    cases hparts with
    | cons hpart hparts =>
      cases hbehind with
      | @cons part gap before behind _ hgap hbefore hbehind =>
        have hmore := ih (fun b hb => h b (by simp [hb])) hparts hbehind (Nat.lt_of_succ_lt_succ hfuel)
        have hends := numberEnds_of_follows hbehind rest (c := ']') (by decide)
        have hskip := skipSpace_spelled hbefore hpart (behind ++ ']' :: rest)
        have hread := h a (by simp) blanks_nil hpart hends
        obtain ⟨c, more, rfl, _, hc⟩ := begins_of_spells hpart
        simp only [List.append_assoc, List.cons_append, List.nil_append] at hskip hread ⊢
        rw [readMoreElements, skipSpace_blanks hgap, skipSpace_of_not_space rfl]
        simp only
        rw [hskip]
        split
        case h_1 heq => cases heq
        case h_2 heq =>
          cases heq
          exact (hc rfl).elim
        case h_3 =>
          rw [hread]
          simp only [bind, Except.bind, hmore]
          rfl

theorem readElements_listed {as : List α} (h : ∀ a ∈ as, Takes item (print a) a) {parts : List (List Char)}
    {body : List Char} (hparts : SpellsItems (as.map print) parts) (hbody : Listed parts body) (rest : List Char) :
    readElements item (body ++ ']' :: rest) = .ok (as, rest) := by
  cases as with
  | nil =>
    cases hparts
    cases hbody with
    | nil hgap =>
      rw [readElements, skipSpace_blanks hgap]
      rfl
  | cons a as =>
    cases hparts with
    | @cons _ _ part parts hpart hparts =>
      cases hbody with
      | @cons _ before behind _ hbefore hbehind =>
        have hlength := length_le_of_follows hbehind
        have hfuel : parts.length < (behind ++ ']' :: rest).length + 1 := by
          rw [List.length_append]
          exact Nat.lt_succ_of_le (Nat.le_add_right_of_le hlength)
        have hmore := readMoreElements_follows (fun b hb => h b (by simp [hb])) hparts hbehind hfuel rest
        have hends := numberEnds_of_follows hbehind rest (c := ']') (by decide)
        have hskip := skipSpace_spelled hbefore hpart (behind ++ ']' :: rest)
        have hread := h a (by simp) blanks_nil hpart hends
        obtain ⟨c, more, rfl, _, hc⟩ := begins_of_spells hpart
        simp only [List.append_assoc, List.cons_append, List.nil_append] at hskip hread ⊢
        rw [readElements, hskip]
        split
        case h_1 heq => cases heq
        case h_2 heq =>
          cases heq
          exact (hc rfl).elim
        case h_3 =>
          rw [hread]
          simp only [bind, Except.bind, hmore]
          rfl

/-- A list is read from its items. -/
theorem takes_list {as : List α} (h : ∀ a ∈ as, Takes item (print a) a) :
    Takes (readList item) (.array (as.map print)) as := by
  intro before text rest hbefore htext _
  have hskip := skipSpace_spelled hbefore htext rest
  cases htext with
  | array hparts hbody =>
    have hread := readElements_listed h hparts hbody rest
    simp only [List.append_assoc, List.cons_append, List.nil_append] at hskip ⊢
    rw [readList, hskip]
    exact hread

end

theorem takes_names (names : List String) : Takes readNames (.array (names.map .string)) (.ofList names) := by
  intro before text rest hbefore htext hrest
  have hlist : Takes (readList readText) (.array (names.map .string)) names := takes_list fun name _ => takes_text name
  have hread := hlist hbefore htext hrest
  simp only [readNames, hread, bind, Except.bind]
  rfl

/-! Objects -/

/-- A member with a name and a value leads from one state to another. It is read from behind the quote that opens its
name. -/
def TakesMember (member : σ → Reader σ) (s : σ) (name : String) (v : Value) (s' : σ) : Prop :=
  ∀ ⦃chars gap before text rest : List Char⦄, SpellsChars name.toList chars → Blanks gap → Blanks before →
    Spells v text → NumberEnds rest →
    member s (chars ++ '"' :: (gap ++ ':' :: (before ++ (text ++ rest)))) = .ok (s', rest)

/-- The members of an object lead from one state to another. -/
inductive Gathers (member : σ → Reader σ) : σ → List (String × Value) → σ → Prop
  | nil (s : σ) : Gathers member s [] s
  | cons {s s₁ s₂ : σ} {name : String} {v : Value} {members : List (String × Value)}
      (h : TakesMember member s name v s₁) (hmore : Gathers member s₁ members s₂) :
      Gathers member s ((name, v) :: members) s₂

theorem readColon_blanks {gap : List Char} (h : Blanks gap) (text : List Char) :
    readColon (gap ++ ':' :: text) = .ok text := by
  rw [readColon, skipSpace_blanks h]
  rfl

theorem readMoreMembers_follows {member : σ → Reader σ} {s s' : σ} {members : List (String × Value)}
    (h : Gathers member s members s') {parts : List (List Char)} {behind : List Char}
    (hparts : SpellsMembers members parts) (hbehind : Follows parts behind) {fuel : Nat} (hfuel : parts.length < fuel)
    (rest : List Char) : readMoreMembers member fuel s (behind ++ '\x7d' :: rest) = .ok (s', rest) := by
  induction h generalizing parts behind fuel with
  | nil =>
    obtain ⟨fuel, rfl⟩ := Nat.exists_eq_succ_of_ne_zero (Nat.ne_zero_of_lt hfuel)
    cases hparts
    cases hbehind with
    | nil hgap =>
      rw [readMoreMembers, skipSpace_blanks hgap]
      rfl
  | @cons s s₁ s₂ name v members hmember _ ih =>
    obtain ⟨fuel, rfl⟩ := Nat.exists_eq_succ_of_ne_zero (Nat.ne_zero_of_lt hfuel)
    cases hparts with
    | cons hkey hgap' hbefore' hvalue hparts =>
      cases hbehind with
      | @cons _ gap before behind _ hgap hbefore hbehind =>
        cases hkey with
        | quoted hkey =>
          have hmore := ih hparts hbehind (Nat.lt_of_succ_lt_succ hfuel)
          have hends := numberEnds_of_follows hbehind rest (c := '\x7d') (by decide)
          have hread := hmember hkey hgap' hbefore' hvalue hends
          simp only [List.append_assoc, List.cons_append, List.nil_append]
          rw [readMoreMembers, skipSpace_blanks hgap, skipSpace_of_not_space rfl]
          simp only
          rw [skipSpace_blanks hbefore, skipSpace_of_not_space rfl]
          simp only [hread, bind, Except.bind, hmore]

theorem readMembers_listed {member : σ → Reader σ} {s s' : σ} {members : List (String × Value)}
    (h : Gathers member s members s') {parts : List (List Char)} {body : List Char}
    (hparts : SpellsMembers members parts) (hbody : Listed parts body) (rest : List Char) :
    readMembers member s (body ++ '\x7d' :: rest) = .ok (s', rest) := by
  cases h with
  | nil =>
    cases hparts
    cases hbody with
    | nil hgap =>
      rw [readMembers, skipSpace_blanks hgap]
      rfl
  | @cons _ s₁ _ name v members hmember hmembers =>
    cases hparts with
    | @cons _ _ _ _ _ _ _ parts hkey hgap' hbefore' hvalue hparts =>
      cases hbody with
      | @cons _ before behind _ hbefore hbehind =>
        cases hkey with
        | quoted hkey =>
          have hlength := length_le_of_follows hbehind
          have hfuel : parts.length < (behind ++ '\x7d' :: rest).length + 1 := by
            rw [List.length_append]
            exact Nat.lt_succ_of_le (Nat.le_add_right_of_le hlength)
          have hmore := readMoreMembers_follows hmembers hparts hbehind hfuel rest
          have hends := numberEnds_of_follows hbehind rest (c := '\x7d') (by decide)
          have hread := hmember hkey hgap' hbefore' hvalue hends
          simp only [List.append_assoc, List.cons_append, List.nil_append]
          rw [readMembers, skipSpace_blanks hbefore, skipSpace_of_not_space rfl]
          simp only [hread, bind, Except.bind, hmore]

/-- An object of members of one kind is read as a dictionary. -/
theorem takes_dictionary {item : Reader α} {print : α → Value} {entries : List (String × α)}
    (h : ∀ e ∈ entries, Takes item (print e.2) e.2) :
    Takes (readDictionary item) (.object (entries.map fun e => (e.1, print e.2))) (.ofList entries) := by
  intro before text rest hbefore htext _
  have hskip := skipSpace_spelled hbefore htext rest
  cases htext with
  | object hparts hbody =>
    simp only [List.append_assoc, List.cons_append, List.nil_append] at hskip ⊢
    rw [readDictionary, hskip]
    refine readMembers_listed ?_ hparts hbody rest
    clear hparts
    rw [Dictionary.ofList]
    generalize Dictionary.empty = d
    induction entries generalizing d with
    | nil => exact .nil d
    | cons e entries ih =>
      rw [List.map_cons, List.foldl_cons]
      refine .cons ?_ (ih (fun f hf => h f (by simp [hf])) (d.insert e.1 e.2))
      intro chars gap before text rest hchars hgap hbefore htext hrest
      have hname := readString_of_spellsChars hchars (gap ++ ':' :: (before ++ (text ++ rest)))
      have hread := h e (by simp) hbefore htext hrest
      simp only [hname, bind, Except.bind, readColon_blanks hgap, hread]
      rfl

/-! Records -/

/-- A member that is a field is read into the draft. -/
theorem takesMember_field {shape : Shape σ α} {slot : Slot σ} {s s' : σ} {name : String} {v : Value}
    (hslot : shape.slots.find? (·.name == name) = some slot) (htaken : slot.taken s = false)
    (h : Takes (slot.read s) v s') : TakesMember shape.readMember s name v s' := by
  intro chars gap before text rest hchars hgap hbefore htext hrest
  have hread := h hbefore htext hrest
  have hname := readString_of_spellsChars hchars (gap ++ ':' :: (before ++ (text ++ rest)))
  simp only [Shape.readMember, hname, bind, Except.bind, hslot, htaken, readColon_blanks hgap, hread]
  rfl

theorem takes_required {β : Type} {name : String} {get : σ → Option β} {put : σ → β → σ} {item : Reader β} {v : Value}
    {b : β} (h : Takes item v b) (s : σ) : Takes ((Slot.required name get put item).read s) v (put s b) := by
  intro before text rest hbefore htext hrest
  have hread := h hbefore htext hrest
  change (item (before ++ (text ++ rest)) >>= fun p => pure (put s p.1, p.2)) = _
  rw [hread]
  rfl

theorem takes_optional {β : Type} {name : String} {get : σ → Option β} {put : σ → β → σ} {item : Reader β} {v : Value}
    {b : β} (h : Takes item v b) (s : σ) : Takes ((Slot.optional name get put item).read s) v (put s b) :=
  @takes_required σ β name get put item v b h s

/-- A record is read from its members. -/
theorem takes_record {shape : Shape σ α} {s : σ} {members : List (String × Value)} {a : α}
    (h : Gathers shape.readMember shape.empty members s) (hbuild : shape.build s = .ok a) :
    Takes shape.read (.object members) a := by
  intro before text rest hbefore htext _
  have hskip := skipSpace_spelled hbefore htext rest
  cases htext with
  | object hparts hbody =>
    have hread := readMembers_listed h hparts hbody rest
    simp only [List.append_assoc, List.cons_append, List.nil_append] at hskip ⊢
    rw [Shape.read, hskip]
    simp only [hread, bind, Except.bind, Shape.finish, hbuild]

/-! Values of any kind -/

mutual

/-- How deep lists and objects stand in each other. -/
def Value.height : Value → Nat
  | .array items => itemsHeight items + 1
  | .object members => membersHeight members + 1
  | .null | .bool _ | .number _ | .string _ => 0

def itemsHeight : List Value → Nat
  | [] => 0
  | v :: more => max v.height (itemsHeight more)

def membersHeight : List (String × Value) → Nat
  | [] => 0
  | (_, v) :: more => max v.height (membersHeight more)

end

theorem height_le_of_mem {items : List Value} {v : Value} (h : v ∈ items) : v.height ≤ itemsHeight items := by
  induction items with
  | nil => cases h
  | cons u items ih =>
    rw [itemsHeight]
    rcases List.mem_cons.1 h with rfl | h
    · exact Nat.le_max_left _ _
    · exact Nat.le_trans (ih h) (Nat.le_max_right _ _)

/-- Members are gathered one behind the other. -/
theorem gathers_members {depth : Nat} {members : List (String × Value)}
    (h : ∀ m ∈ members, Takes (readValue depth) m.2 m.2) (front : List (String × Value)) :
    Gathers (readMember (readValue depth)) front members (front ++ members) := by
  induction members generalizing front with
  | nil =>
    rw [List.append_nil]
    exact .nil front
  | cons m members ih =>
    have hmore := ih (fun u hu => h u (by simp [hu])) (front ++ [m])
    rw [List.append_assoc] at hmore
    refine .cons ?_ hmore
    intro chars gap before text rest hchars hgap hbefore htext hrest
    have hname := readString_of_spellsChars hchars (gap ++ ':' :: (before ++ (text ++ rest)))
    have hread := h m (by simp) hbefore htext hrest
    simp only [readMember, hname, bind, Except.bind, readColon_blanks hgap, hread]
    rfl

theorem height_le_of_mem_members {members : List (String × Value)} {m : String × Value} (h : m ∈ members) :
    m.2.height ≤ membersHeight members := by
  induction members with
  | nil => cases h
  | cons u members ih =>
    rw [membersHeight]
    rcases List.mem_cons.1 h with rfl | h
    · exact Nat.le_max_left _ _
    · exact Nat.le_trans (ih h) (Nat.le_max_right _ _)

theorem readValue_blanks {gap : List Char} (h : Blanks gap) (depth : Nat) (text : List Char) :
    readValue (depth + 1) (gap ++ text) = readValue (depth + 1) text := by
  rw [readValue, readValue, skipSpace_blanks h]

/-- A value is read from each of its texts, if it is not too deep. -/
theorem takes_value {v : Value} {depth : Nat} (h : v.height < depth) : Takes (readValue depth) v v := by
  induction depth generalizing v with
  | zero => cases h
  | succ depth ih =>
    intro before text rest hbefore htext hrest
    have hskip := skipSpace_spelled hbefore htext rest
    cases htext with
    | null =>
      rw [readValue, hskip]
      rfl
    | bool b =>
      rw [readValue, hskip]
      cases b <;> rfl
    | @nat n m hm hsize =>
      subst hm
      obtain ⟨c, more, hdigits, hc⟩ := exists_cons_of_digits n
      have hread := readNumber_digitsOf hsize hrest
      rw [hdigits, List.cons_append] at hread
      rw [readValue_blanks hbefore, hdigits, List.cons_append, readValue_of_isDigit hc, hread]
      rfl
    | string htext =>
      cases htext with
      | quoted htext =>
        have hread := readString_of_spellsChars htext rest
        simp only [List.append_assoc, List.cons_append, List.nil_append] at hskip ⊢
        rw [readValue, hskip]
        simp only [hread, bind, Except.bind]
        rfl
    | @array items parts body hparts hbody =>
      rw [Value.height] at h
      have hitems : ∀ v ∈ items, Takes (readValue depth) v v := fun v hv =>
        ih (Nat.lt_of_le_of_lt (height_le_of_mem hv) (by omega))
      have hparts : SpellsItems (items.map id) parts := by rwa [List.map_id]
      have hread := @readElements_listed Value (readValue depth) id items hitems parts body hparts hbody rest
      simp only [List.append_assoc, List.cons_append, List.nil_append] at hskip ⊢
      rw [readValue, hskip]
      simp only
      rw [if_neg (by omega)]
      simp only [hread, bind, Except.bind]
      rfl
    | @object members parts body hparts hbody =>
      rw [Value.height] at h
      have hmembers : ∀ m ∈ members, Takes (readValue depth) m.2 m.2 := fun m hm =>
        ih (Nat.lt_of_le_of_lt (height_le_of_mem_members hm) (by omega))
      have hread := readMembers_listed (gathers_members hmembers []) hparts hbody rest
      simp only [List.append_assoc, List.cons_append, List.nil_append] at hskip ⊢
      rw [readValue, hskip]
      simp only
      rw [if_neg (by omega)]
      simp only [hread, bind, Except.bind]
      rfl

/-- A value is parsed from each of its texts, if it is not too deep. -/
theorem parse_of_spells {v : Value} (h : v.height < depthLimit) {text : String} (htext : Spells v text.toList) :
    Value.parse text = .ok v := parse_of_takes (takes_value h) htext

end ScriptBench.Json
