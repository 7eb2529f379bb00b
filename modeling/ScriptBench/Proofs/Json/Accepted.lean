import ScriptBench.Proofs.Json.Written

/-! What is read from a text is written there by the grammar. -/
namespace ScriptBench.Json

open Text

/-! Numbers -/

section

variable {negative : Bool} {significand : Nat} {exponent : Int} {n : Number} {text rest : List Char}

theorem eq_of_scaled (h : scaled negative significand exponent text = .ok (n, rest)) : rest = text := by
  unfold scaled at h
  split at h <;> cases h
  rfl

theorem exists_of_readExponentDigits {down : Bool} {read : Nat}
    (h : readExponentDigits negative significand exponent down read text = .ok (n, rest)) :
    ∃ digits, (∀ c ∈ digits, c.isDigit = true) ∧ text = digits ++ rest := by
  induction text generalizing read with
  | nil => exact ⟨[], by simp, (eq_of_scaled h).symm⟩
  | cons c text ih =>
    rw [readExponentDigits] at h
    split at h
    · rename_i hc
      split at h
      · split at h
        · cases h
        · rw [eq_of_scaled h]
          refine ⟨c :: text.takeWhile Char.isDigit, List.forall_mem_cons.2 ⟨hc, fun d hd => mem_takeWhile hd⟩, ?_⟩
          rw [List.cons_append, List.takeWhile_append_dropWhile]
      · obtain ⟨digits, hdigits, rfl⟩ := ih h
        exact ⟨c :: digits, List.forall_mem_cons.2 ⟨hc, hdigits⟩, rfl⟩
    · exact ⟨[], by simp, (eq_of_scaled h).symm⟩

theorem exists_of_readExponent (h : readExponent negative significand exponent text = .ok (n, rest)) :
    ∃ sign digits, sign ∈ [[], ['+'], ['-']] ∧ Digits digits ∧ text = sign ++ (digits ++ rest) := by
  have hunsigned : ∀ {down : Bool} {c : Char} {more : List Char},
      (if c.isDigit then readExponentDigits negative significand exponent down (digit c) more
        else .error (.inside .invalidNumber (c :: more))) = Except.ok (n, rest) →
      ∃ digits, Digits digits ∧ c :: more = digits ++ rest := by
    intro down c more h
    split at h
    · rename_i hc
      obtain ⟨digits, hdigits, rfl⟩ := exists_of_readExponentDigits h
      exact ⟨c :: digits, ⟨by simp, List.forall_mem_cons.2 ⟨hc, hdigits⟩⟩, rfl⟩
    · cases h
  cases text with
  | nil => cases h
  | cons c text =>
    by_cases hplus : c = '+'
    · subst hplus
      cases text with
      | nil => cases h
      | cons d text =>
        obtain ⟨digits, hdigits, htext⟩ := hunsigned h
        exact ⟨['+'], digits, by simp, hdigits, congrArg _ htext⟩
    · by_cases hminus : c = '-'
      · subst hminus
        cases text with
        | nil => cases h
        | cons d text =>
          obtain ⟨digits, hdigits, htext⟩ := hunsigned h
          exact ⟨['-'], digits, by simp, hdigits, congrArg _ htext⟩
      · rw [readExponent] at h
        · obtain ⟨digits, hdigits, htext⟩ := hunsigned h
          exact ⟨[], digits, by simp, hdigits, htext⟩
        · exact fun more heq => hplus (List.cons.inj heq).1
        · exact fun more heq => hminus (List.cons.inj heq).1

theorem exists_of_readScale (h : readScale negative significand exponent text = .ok (n, rest)) :
    ∃ scale, WrittenExponent scale ∧ text = scale ++ rest := by
  cases text with
  | nil => exact ⟨[], .none, (eq_of_scaled h).symm⟩
  | cons c text =>
    rw [readScale] at h
    split at h
    · rename_i hmark
      obtain ⟨sign, digits, hsign, hdigits, rfl⟩ := exists_of_readExponent h
      refine ⟨c :: (sign ++ digits), .some hmark hsign hdigits, ?_⟩
      rw [List.cons_append, List.append_assoc]
    · exact ⟨[], .none, (eq_of_scaled h).symm⟩

theorem exists_of_gather {count s k : Nat} (h : gather significand count text = (s, k, rest)) :
    ∃ digits, (∀ c ∈ digits, c.isDigit = true) ∧ text = digits ++ rest := by
  induction text generalizing significand count with
  | nil =>
    cases h
    exact ⟨[], by simp, rfl⟩
  | cons c text ih =>
    rw [gather] at h
    split at h
    · rename_i hc
      obtain ⟨digits, hdigits, rfl⟩ := ih h
      exact ⟨c :: digits, List.forall_mem_cons.2 ⟨(Bool.and_eq_true_iff.1 hc).1, hdigits⟩, rfl⟩
    · cases h
      exact ⟨[], by simp, rfl⟩

theorem exists_of_readFraction (h : readFraction negative significand exponent text = .ok (n, rest)) :
    ∃ digits scale, Digits digits ∧ WrittenExponent scale ∧ text = digits ++ (scale ++ rest) := by
  cases text with
  | nil => cases h
  | cons c text =>
    rw [readFraction] at h
    split at h
    · rename_i hc
      cases hgather : gather significand 0 (c :: text) with
      | mk s p =>
        obtain ⟨k, more⟩ := p
        rw [hgather] at h
        obtain ⟨digits, hdigits, htext⟩ := exists_of_gather hgather
        obtain ⟨scale, hscale, hmore⟩ := exists_of_readScale h
        have hall : ∀ d ∈ digits ++ more.takeWhile Char.isDigit, d.isDigit = true := by
          intro d hd
          rcases List.mem_append.1 hd with hd | hd
          · exact hdigits d hd
          · exact mem_takeWhile hd
        have hwhole : c :: text = digits ++ more.takeWhile Char.isDigit ++ (scale ++ rest) := by
          rw [htext, ← hmore, List.append_assoc, List.takeWhile_append_dropWhile]
        refine ⟨_, scale, ⟨fun hnil => ?_, hall⟩, hscale, hwhole⟩
        -- the first digit may not fit, but then it is among those that are dropped
        obtain ⟨rfl, hnil⟩ := List.append_eq_nil_iff.1 hnil
        rw [List.nil_append] at htext
        rw [← htext, List.takeWhile_cons_of_pos hc] at hnil
        cases hnil
    · cases h

theorem exists_of_readAfterDigits (h : readAfterDigits negative significand text = .ok (n, rest)) :
    ∃ fraction scale, WrittenFraction fraction ∧ WrittenExponent scale ∧ text = fraction ++ (scale ++ rest) := by
  cases text with
  | nil =>
    cases h
    exact ⟨[], [], .none, .none, rfl⟩
  | cons c text =>
    rw [readAfterDigits] at h
    split at h
    · rename_i hpoint
      obtain ⟨digits, scale, hdigits, hscale, rfl⟩ := exists_of_readFraction h
      rw [beq_iff_eq.1 hpoint]
      exact ⟨_, scale, .some hdigits, hscale, rfl⟩
    · split at h
      · rename_i hmark
        obtain ⟨sign, digits, hsign, hdigits, rfl⟩ := exists_of_readExponent h
        refine ⟨[], _, .none, .some hmark hsign hdigits, ?_⟩
        rw [List.nil_append, List.cons_append, List.append_assoc]
      · cases h
        exact ⟨[], [], .none, .none, rfl⟩

theorem exists_of_readLong {count : Nat} (h : readLong negative significand count text = .ok (n, rest)) :
    ∃ digits fraction scale, (∀ c ∈ digits, c.isDigit = true) ∧ WrittenFraction fraction ∧ WrittenExponent scale ∧
      text = digits ++ (fraction ++ (scale ++ rest)) := by
  induction text generalizing count with
  | nil => exact ⟨[], [], [], by simp, .none, .none, (eq_of_scaled h).symm⟩
  | cons c text ih =>
    rw [readLong] at h
    split at h
    · rename_i hc
      obtain ⟨digits, fraction, scale, hdigits, hfraction, hscale, rfl⟩ := ih h
      exact ⟨c :: digits, fraction, scale, List.forall_mem_cons.2 ⟨hc, hdigits⟩, hfraction, hscale, rfl⟩
    · split at h
      · rename_i hpoint
        obtain ⟨digits, scale, hdigits, hscale, rfl⟩ := exists_of_readFraction h
        rw [beq_iff_eq.1 hpoint]
        exact ⟨[], _, scale, by simp, .some hdigits, hscale, rfl⟩
      · obtain ⟨scale, hscale, htext⟩ := exists_of_readScale h
        exact ⟨[], [], scale, by simp, .none, hscale, htext⟩

theorem exists_of_readDigits (h : readDigits negative text = .ok (n, rest)) :
    ∃ whole fraction scale, Digits whole ∧ (whole.head? = some '0' → whole = ['0']) ∧ WrittenFraction fraction ∧
      WrittenExponent scale ∧ text = whole ++ (fraction ++ (scale ++ rest)) := by
  cases text with
  | nil => cases h
  | cons c text =>
    by_cases hzero : c = '0'
    · subst hzero
      have hafter : readAfterDigits negative 0 text = .ok (n, rest) := by
        cases text with
        | nil => exact h
        | cons d text =>
          simp only [readDigits, beq_self_eq_true, if_true] at h
          split at h
          · cases h
          · exact h
      obtain ⟨fraction, scale, hfraction, hscale, rfl⟩ := exists_of_readAfterDigits hafter
      exact ⟨['0'], fraction, scale, ⟨by simp, by simp⟩, fun _ => rfl, hfraction, hscale, rfl⟩
    · have hzero' : (c == '0') = false := by simpa using hzero
      simp only [readDigits, hzero', Bool.false_eq_true, if_false] at h
      split at h
      · rename_i hc
        cases hgather : gather (digit c) 0 text with
        | mk s p =>
          obtain ⟨k, more⟩ := p
          rw [hgather] at h
          obtain ⟨digits, hdigits, rfl⟩ := exists_of_gather hgather
          have hmore : ∃ others fraction scale, (∀ d ∈ others, d.isDigit = true) ∧ WrittenFraction fraction ∧
              WrittenExponent scale ∧ more = others ++ (fraction ++ (scale ++ rest)) := by
            cases more with
            | nil =>
              obtain ⟨fraction, scale, hfraction, hscale, hmore⟩ := exists_of_readAfterDigits h
              exact ⟨[], fraction, scale, by simp, hfraction, hscale, hmore⟩
            | cons d more =>
              dsimp only at h
              split at h
              · exact exists_of_readLong h
              · obtain ⟨fraction, scale, hfraction, hscale, hmore⟩ := exists_of_readAfterDigits h
                exact ⟨[], fraction, scale, by simp, hfraction, hscale, hmore⟩
          obtain ⟨others, fraction, scale, hothers, hfraction, hscale, rfl⟩ := hmore
          refine ⟨c :: (digits ++ others), fraction, scale, ⟨by simp, ?_⟩, fun heq => ?_, hfraction, hscale, ?_⟩
          · exact List.forall_mem_cons.2 ⟨hc, List.forall_mem_append.2 ⟨hdigits, hothers⟩⟩
          · exact (hzero (Option.some.inj heq)).elim
          · rw [List.cons_append, List.append_assoc]
      · cases h

theorem exists_of_readNumber (h : readNumber text = .ok (n, rest)) :
    ∃ front, WrittenNumber front ∧ text = front ++ rest := by
  have hsigned : ∀ {negative : Bool} {more sign : List Char}, sign ∈ [[], ['-']] →
      readDigits negative more = .ok (n, rest) → ∃ front, WrittenNumber front ∧ sign ++ more = front ++ rest := by
    intro negative more sign hsign h
    obtain ⟨whole, fraction, scale, hwhole, hzero, hfraction, hscale, rfl⟩ := exists_of_readDigits h
    refine ⟨_, .intro hsign hwhole hzero hfraction hscale, ?_⟩
    simp only [List.append_assoc]
  unfold readNumber at h
  split at h
  · exact @hsigned true _ ['-'] (by simp) h
  · exact @hsigned false _ [] (by simp) h

end

/-! Strings -/

theorem exists_of_readUnit {text rest : List Char} {n : Nat} (h : readUnit text = .ok (n, rest)) :
    ∃ d₁ d₂ d₃ d₄, hexUnit? d₁ d₂ d₃ d₄ = some n ∧ text = d₁ :: d₂ :: d₃ :: d₄ :: rest := by
  unfold readUnit at h
  split at h
  · split at h
    · rename_i hn
      cases h
      exact ⟨_, _, _, _, hn, rfl⟩
    · cases h
  · cases h

theorem exists_of_readLowHalf {high : Nat} {text rest : List Char} {c : Char}
    (h : readLowHalf high text = .ok (c, rest)) :
    ∃ d₁ d₂ d₃ d₄ n, hexUnit? d₁ d₂ d₃ d₄ = some n ∧ text = '\\' :: 'u' :: d₁ :: d₂ :: d₃ :: d₄ :: rest := by
  unfold readLowHalf at h
  split at h
  · cases h
  · cases h
  · split at h
    · cases h
    · rename_i hunit
      split at h
      · simp only [Except.ok.injEq, Prod.mk.injEq] at h
        obtain ⟨-, rfl⟩ := h
        obtain ⟨d₁, d₂, d₃, d₄, hn, rfl⟩ := exists_of_readUnit hunit
        exact ⟨d₁, d₂, d₃, d₄, _, hn, rfl⟩
      · cases h
  · cases h
  · cases h

theorem exists_of_readEscape {text rest : List Char} {c : Char} (h : readEscape text = .ok (c, rest)) :
    ∃ front, text = front ++ rest ∧ ∀ more, Quoted more → Quoted ('\\' :: (front ++ more)) := by
  unfold readEscape at h
  split at h
  · cases h
  · split at h
    · rename_i hu
      subst hu
      unfold readCodeUnits at h
      split at h
      · cases h
      · rename_i hunit
        obtain ⟨d₁, d₂, d₃, d₄, hn, rfl⟩ := exists_of_readUnit hunit
        split at h
        · cases h
        · split at h
          · obtain ⟨e₁, e₂, e₃, e₄, m, hm, rfl⟩ := exists_of_readLowHalf h
            exact ⟨['u', d₁, d₂, d₃, d₄, '\\', 'u', e₁, e₂, e₃, e₄], rfl, fun more hmore => .unit hn (.unit hm hmore)⟩
          · cases h
            exact ⟨['u', d₁, d₂, d₃, d₄], rfl, fun more hmore => .unit hn hmore⟩
    · split at h
      · rename_i x hx
        cases h
        exact ⟨[_], rfl, fun more hmore => .letter hx hmore⟩
      · cases h

theorem exists_of_readChars {text cs rest : List Char} (h : readChars text = .ok (cs, rest)) :
    ∃ chars, Quoted chars ∧ text = chars ++ '"' :: rest := by
  fun_induction readChars text generalizing cs rest with
  | case1 => cases h
  | case2 =>
    cases h
    exact ⟨[], .nil, rfl⟩
  | case3 => cases h
  | case4 text c after hescape _ ih =>
    obtain ⟨p, hp, hread⟩ := bind_eq_ok.1 h
    cases hread
    obtain ⟨chars, hchars, rfl⟩ := ih hp
    obtain ⟨front, rfl, hfront⟩ := exists_of_readEscape hescape
    refine ⟨_, hfront chars hchars, ?_⟩
    rw [List.cons_append, List.append_assoc]
  | case5 => cases h
  | case6 c text hquote hslash hcontrol ih =>
    obtain ⟨p, hp, hread⟩ := bind_eq_ok.1 h
    cases hread
    obtain ⟨chars, hchars, rfl⟩ := ih hp
    exact ⟨c :: chars, .plain hquote hslash (Bool.not_eq_true _ ▸ hcontrol) hchars, rfl⟩

theorem exists_of_readString {text rest : List Char} {s : String} (h : readString text = .ok (s, rest)) :
    ∃ chars, Quoted chars ∧ text = chars ++ '"' :: rest := by
  obtain ⟨p, hp, hread⟩ := bind_eq_ok.1 h
  cases hread
  exact exists_of_readChars hp

/-! Lists and objects -/

theorem blanks_append {a b : List Char} (ha : Blanks a) (hb : Blanks b) : Blanks (a ++ b) :=
  List.forall_mem_append.2 ⟨ha, hb⟩

theorem exists_of_skipSpace (text : List Char) : ∃ gap, Blanks gap ∧ text = gap ++ skipSpace text :=
  ⟨text.takeWhile isSpace, fun _ hc => mem_takeWhile hc, List.takeWhile_append_dropWhile.symm⟩

/-- What a reader takes stands in its text behind blanks. -/
def Accepts {α : Type} (item : Reader α) (p : List Char → Prop) : Prop :=
  ∀ {text rest : List Char} {a : α}, item text = .ok (a, rest) →
    ∃ before front, Blanks before ∧ p front ∧ text = before ++ (front ++ rest)

section

variable {α : Type} {item : Reader α} {p : List Char → Prop}

theorem exists_of_readMoreElements (hitem : Accepts item p) {fuel : Nat} {text rest : List Char} {as : List α}
    (h : readMoreElements item fuel text = .ok (as, rest)) :
    ∃ parts behind, (∀ part ∈ parts, p part) ∧ Follows parts behind ∧ text = behind ++ ']' :: rest := by
  induction fuel generalizing text as with
  | zero => cases h
  | succ fuel ih =>
    obtain ⟨gap, hgap, htext⟩ := exists_of_skipSpace text
    rw [readMoreElements] at h
    split at h
    · cases h
    · rename_i heq
      cases h
      rw [heq] at htext
      exact ⟨[], gap, by simp, .nil hgap, htext⟩
    · rename_i more heq
      obtain ⟨gap', hgap', hmore⟩ := exists_of_skipSpace more
      split at h
      · cases h
      · cases h
      · obtain ⟨q, hq, h⟩ := bind_eq_ok.1 h
        obtain ⟨qs, hqs, h⟩ := bind_eq_ok.1 h
        cases h
        obtain ⟨before, front, hbefore, hfront, hread⟩ := hitem hq
        obtain ⟨parts, behind, hparts, hbehind, hrest⟩ := ih hqs
        refine ⟨front :: parts, _, List.forall_mem_cons.2 ⟨hfront, hparts⟩,
          .cons hgap (blanks_append hgap' hbefore) hbehind, ?_⟩
        rw [htext, heq, hmore, hread, hrest]
        simp only [List.append_assoc, List.cons_append]
    · cases h

theorem exists_of_readElements (hitem : Accepts item p) {text rest : List Char} {as : List α}
    (h : readElements item text = .ok (as, rest)) :
    ∃ parts body, (∀ part ∈ parts, p part) ∧ Listed parts body ∧ text = body ++ ']' :: rest := by
  obtain ⟨gap, hgap, htext⟩ := exists_of_skipSpace text
  rw [readElements] at h
  split at h
  · cases h
  · rename_i heq
    cases h
    rw [heq] at htext
    exact ⟨[], gap, by simp, .nil hgap, htext⟩
  · obtain ⟨q, hq, h⟩ := bind_eq_ok.1 h
    obtain ⟨qs, hqs, h⟩ := bind_eq_ok.1 h
    cases h
    obtain ⟨before, front, hbefore, hfront, hread⟩ := hitem hq
    obtain ⟨parts, behind, hparts, hbehind, hrest⟩ := exists_of_readMoreElements hitem hqs
    refine ⟨front :: parts, _, List.forall_mem_cons.2 ⟨hfront, hparts⟩,
      .cons (blanks_append hgap hbefore) hbehind, ?_⟩
    rw [htext, hread, hrest]
    simp only [List.append_assoc]

end

theorem exists_of_readColon {text rest : List Char} (h : readColon text = .ok rest) :
    ∃ gap, Blanks gap ∧ text = gap ++ ':' :: rest := by
  obtain ⟨gap, hgap, htext⟩ := exists_of_skipSpace text
  unfold readColon at h
  split at h
  · cases h
  · rename_i heq
    cases h
    exact ⟨gap, hgap, heq ▸ htext⟩
  · cases h

section

variable {depth : Nat} {text rest : List Char} {front vs : List (String × Value)}

theorem exists_of_readMember (hvalue : Accepts (readValue depth) Written)
    (h : readMember (readValue depth) front text = .ok (vs, rest)) :
    ∃ (m : MemberText) (chars : List Char), Quoted m.key ∧ Written m.text ∧ m.Laid ('"' :: chars) ∧
      text = chars ++ rest := by
  obtain ⟨⟨name, afterKey⟩, hname, h⟩ := bind_eq_ok.1 h
  obtain ⟨afterColon, hcolon, h⟩ := bind_eq_ok.1 h
  obtain ⟨⟨v, afterValue⟩, hv, h⟩ := bind_eq_ok.1 h
  cases h
  obtain ⟨key, hkey, rfl⟩ := exists_of_readString hname
  obtain ⟨gap, hgap, rfl⟩ := exists_of_readColon hcolon
  obtain ⟨before, written, hbefore, hwritten, rfl⟩ := hvalue hv
  refine ⟨⟨key, written⟩, _, hkey, hwritten, .intro hgap hbefore, ?_⟩
  simp only [List.append_assoc, List.cons_append]

theorem exists_of_readMoreMembers (hvalue : Accepts (readValue depth) Written) {fuel : Nat}
    (h : readMoreMembers (readMember (readValue depth)) fuel front text = .ok (vs, rest)) :
    ∃ members parts behind, (∀ m ∈ members, Quoted m.key) ∧ (∀ m ∈ members, Written m.text) ∧
      List.Forall₂ MemberText.Laid members parts ∧ Follows parts behind ∧ text = behind ++ '\x7d' :: rest := by
  induction fuel generalizing text front with
  | zero => cases h
  | succ fuel ih =>
    obtain ⟨gap, hgap, htext⟩ := exists_of_skipSpace text
    rw [readMoreMembers] at h
    split at h
    · cases h
    · rename_i heq
      cases h
      rw [heq] at htext
      exact ⟨[], [], gap, by simp, by simp, .nil, .nil hgap, htext⟩
    · rename_i more heq
      obtain ⟨gap', hgap', hmore⟩ := exists_of_skipSpace more
      split at h
      · cases h
      · rename_i heq'
        obtain ⟨⟨us, afterMember⟩, hmember, h⟩ := bind_eq_ok.1 h
        obtain ⟨m, chars, hkey, hwritten, hlaid, hread⟩ := exists_of_readMember hvalue hmember
        obtain ⟨members, parts, behind, hkeys, hwrittens, hparts, hbehind, hrest⟩ := ih h
        refine ⟨m :: members, _, _, List.forall_mem_cons.2 ⟨hkey, hkeys⟩,
          List.forall_mem_cons.2 ⟨hwritten, hwrittens⟩, .cons hlaid hparts, .cons hgap hgap' hbehind, ?_⟩
        rw [htext, heq, hmore, heq', hread, hrest]
        simp only [List.append_assoc, List.cons_append]
      · cases h
      · cases h
    · cases h

theorem exists_of_readMembers (hvalue : Accepts (readValue depth) Written)
    (h : readMembers (readMember (readValue depth)) front text = .ok (vs, rest)) :
    ∃ members parts body, (∀ m ∈ members, Quoted m.key) ∧ (∀ m ∈ members, Written m.text) ∧
      List.Forall₂ MemberText.Laid members parts ∧ Listed parts body ∧ text = body ++ '\x7d' :: rest := by
  obtain ⟨gap, hgap, htext⟩ := exists_of_skipSpace text
  rw [readMembers] at h
  split at h
  · cases h
  · rename_i heq
    cases h
    rw [heq] at htext
    exact ⟨[], [], gap, by simp, by simp, .nil, .nil hgap, htext⟩
  · rename_i heq
    obtain ⟨⟨us, afterMember⟩, hmember, h⟩ := bind_eq_ok.1 h
    obtain ⟨m, chars, hkey, hwritten, hlaid, hread⟩ := exists_of_readMember hvalue hmember
    obtain ⟨members, parts, behind, hkeys, hwrittens, hparts, hbehind, hrest⟩ := exists_of_readMoreMembers hvalue h
    refine ⟨m :: members, _, _, List.forall_mem_cons.2 ⟨hkey, hkeys⟩,
      List.forall_mem_cons.2 ⟨hwritten, hwrittens⟩, .cons hlaid hparts, .cons hgap hbehind, ?_⟩
    rw [htext, heq, hread, hrest]
    simp only [List.append_assoc, List.cons_append]
  · cases h

end

/-! Values -/

theorem eq_append_of_readWord {word text rest : List Char} (h : readWord word text = .ok rest) : text = word ++ rest := by
  induction word generalizing text with
  | nil =>
    cases h
    rfl
  | cons w word ih =>
    cases text with
    | nil => cases h
    | cons c text =>
      rw [readWord] at h
      split at h
      · rename_i hc
        rw [hc, ih h, List.cons_append]
      · cases h

/-- What is read as a value is written by the grammar. -/
theorem accepts_readValue (depth : Nat) : Accepts (readValue depth) Written := by
  induction depth with
  | zero => exact nofun
  | succ depth ih =>
    intro text rest v h
    obtain ⟨gap, hgap, htext⟩ := exists_of_skipSpace text
    rw [readValue] at h
    generalize skipSpace text = more at h htext
    suffices hfront : ∃ front, Written front ∧ more = front ++ rest by
      obtain ⟨front, hfront, rfl⟩ := hfront
      exact ⟨gap, front, hgap, hfront, htext⟩
    split at h
    · cases h
    · obtain ⟨after, hword, h⟩ := bind_eq_ok.1 h
      cases h
      rw [eq_append_of_readWord hword]
      exact ⟨_, .null, rfl⟩
    · obtain ⟨after, hword, h⟩ := bind_eq_ok.1 h
      cases h
      rw [eq_append_of_readWord hword]
      exact ⟨_, .bool true, rfl⟩
    · obtain ⟨after, hword, h⟩ := bind_eq_ok.1 h
      cases h
      rw [eq_append_of_readWord hword]
      exact ⟨_, .bool false, rfl⟩
    · obtain ⟨⟨s, after⟩, hstring, h⟩ := bind_eq_ok.1 h
      cases h
      obtain ⟨chars, hchars, rfl⟩ := exists_of_readString hstring
      refine ⟨_, .string hchars, ?_⟩
      simp only [List.append_assoc, List.cons_append, List.nil_append]
    · split at h
      · cases h
      · obtain ⟨⟨items, after⟩, hitems, h⟩ := bind_eq_ok.1 h
        cases h
        obtain ⟨parts, body, hparts, hbody, rfl⟩ := exists_of_readElements ih hitems
        refine ⟨_, .array hparts hbody, ?_⟩
        simp only [List.append_assoc, List.cons_append, List.nil_append]
    · split at h
      · cases h
      · obtain ⟨⟨members, after⟩, hmembers, h⟩ := bind_eq_ok.1 h
        cases h
        obtain ⟨ms, parts, body, hkeys, hwritten, hparts, hbody, rfl⟩ := exists_of_readMembers ih hmembers
        refine ⟨_, .object hkeys hwritten hparts hbody, ?_⟩
        simp only [List.append_assoc, List.cons_append, List.nil_append]
    · split at h
      · obtain ⟨⟨n, after⟩, hnumber, h⟩ := bind_eq_ok.1 h
        cases h
        obtain ⟨front, hfront, heq⟩ := exists_of_readNumber hnumber
        exact ⟨front, .number hfront, heq⟩
      · cases h

theorem numberEnds_of_only_blanks {gap : List Char} (h : Blanks gap) : NumberEnds gap := by
  intro c more heq
  refine numberEnds_of_blanks h [] (c := ',') (by decide) c (more ++ [',']) ?_
  rw [heq]
  rfl

theorem exists_read_of_parse {line : String} {v : Value} (h : Value.parse line = .ok v) :
    ∃ behind, Blanks behind ∧ readValue depthLimit line.toList = .ok (v, behind) := by
  obtain ⟨behind, hread⟩ := read_of_parse h
  refine ⟨behind, ?_, hread⟩
  unfold Value.parse parse at h
  simp only [hread] at h
  split at h
  · rename_i hskip
    obtain ⟨gap, hgap, hbehind⟩ := exists_of_skipSpace behind
    rw [hskip, List.append_nil] at hbehind
    exact hbehind ▸ hgap
  · cases h

theorem exists_members_of_alone {text : List Char} (h : Written text) {depth : Nat} {vs : List (String × Value)}
    (hv : alone (readValue (depth + 1)) text = some (.object vs)) :
    ∃ members parts body, (∀ m ∈ members, Quoted m.key) ∧ (∀ m ∈ members, Written m.text) ∧
      List.Forall₂ MemberText.Laid members parts ∧ Listed parts body ∧ text = '\x7b' :: (body ++ ['\x7d']) := by
  cases h with
  | null =>
    rw [alone_null] at hv
    cases hv
  | bool b =>
    rw [alone_bool] at hv
    cases hv
  | number h =>
    rw [alone_number h] at hv
    obtain ⟨n, -, heq⟩ := Option.map_eq_some_iff.1 hv
    cases heq
  | string h =>
    rw [alone_string] at hv
    obtain ⟨s, -, heq⟩ := Option.map_eq_some_iff.1 hv
    cases heq
  | array h hbody =>
    rw [alone_array h hbody] at hv
    split at hv
    · cases hv
    · obtain ⟨items, -, heq⟩ := Option.map_eq_some_iff.1 hv
      cases heq
  | @object members parts body hkeys h hparts hbody => exact ⟨members, parts, body, hkeys, h, hparts, hbody, rfl⟩

/-- A line that is parsed as an object is a text of one. -/
theorem exists_objectText_of_parse {line : String} {vs : List (String × Value)}
    (h : Value.parse line = .ok (.object vs)) : ∃ members, ObjectText members line.toList := by
  obtain ⟨behind, hbehind, hread⟩ := exists_read_of_parse h
  obtain ⟨before, front, hbefore, hfront, hline⟩ := accepts_readValue depthLimit hread
  have halone : alone (readValue depthLimit) front = some (.object vs) := by
    have hsettled := (settled_value hfront depthLimit).read_append (numberEnds_of_only_blanks hbehind)
    rw [hline] at hread
    rw [← readValue_before hbefore, hread] at hsettled
    obtain ⟨v, hv, heq⟩ := Option.map_eq_some_iff.1 hsettled.symm
    cases heq
    exact hv
  obtain ⟨members, parts, body, hkeys, htexts, hparts, hbody, rfl⟩ := exists_members_of_alone hfront halone
  refine ⟨members, ?_⟩
  rw [hline, List.cons_append, List.append_assoc, List.singleton_append]
  exact .intro hbefore hbehind hkeys htexts hparts hbody

end ScriptBench.Json
