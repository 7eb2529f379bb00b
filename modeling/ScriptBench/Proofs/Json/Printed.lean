import ScriptBench.Proofs.Json.Spelling

/-! Printed values are texts of themselves, on one line or with indentation. -/
namespace ScriptBench.Json

open Decimal (digitsOf)

theorem spellsChar_escape (c : Char) : SpellsChar c (escape c) := by
  unfold escape
  split
  case h_8 hquote hslash hback hform hfeed hreturn htab =>
    by_cases hcontrol : c.toNat < 0x20
    · rw [if_pos hcontrol]
      refine .unit ?_
      have hunit := hexDigit?_hexDigit (n := c.toNat / 16) (by omega)
      have hunit' := hexDigit?_hexDigit (n := c.toNat % 16) (by omega)
      have hzero : hexDigit? '0' = some 0 := by decide
      rw [hexUnit?, hzero, hunit, hunit']
      simp only [Option.bind_eq_bind, Option.bind_some, Option.pure_def, Option.some.injEq]
      omega
    · rw [if_neg hcontrol]
      exact .plain hquote hslash (by simpa [isControl] using hcontrol)
  all_goals exact .letter rfl

theorem spellsChars_escape (cs : List Char) : SpellsChars cs (cs.flatMap escape) := by
  induction cs with
  | nil => exact .nil
  | cons c cs ih => exact .cons (spellsChar_escape c) ih

theorem spellsString_quote (s : String) : SpellsString s (quote s.toList) :=
  .quoted (spellsChars_escape s.toList)

theorem follows_separate {before gap : List Char} (hbefore : Blanks before) (hgap : Blanks gap)
    (parts : List (List Char)) : Follows parts (parts.flatMap (',' :: before ++ ·) ++ gap) := by
  induction parts with
  | nil => exact .nil hgap
  | cons part parts ih =>
    rw [List.flatMap_cons, List.append_assoc, List.append_assoc]
    exact .cons blanks_nil hbefore ih

theorem listed_separate {before gap : List Char} (hbefore : Blanks before) (hgap : Blanks gap)
    (parts : List (List Char)) : Listed parts (before ++ (separate (',' :: before) parts ++ gap)) := by
  cases parts with
  | nil =>
    refine .nil fun c hc => ?_
    rcases List.mem_append.1 hc with hc | hc
    · exact hbefore c hc
    · exact hgap c hc
  | cons part parts =>
    rw [separate_cons, List.append_assoc]
    exact .cons hbefore (follows_separate hbefore hgap parts)

/-! On one line -/

/-- No control characters stand in a text. -/
def OneLine (text : List Char) : Prop := ∀ c ∈ text, 0x20 ≤ c.toNat

instance (text : List Char) : Decidable (OneLine text) := List.decidableBAll _ text

theorem oneLine_append {a b : List Char} : OneLine (a ++ b) ↔ OneLine a ∧ OneLine b := List.forall_mem_append

theorem oneLine_cons {c : Char} {text : List Char} : OneLine (c :: text) ↔ 0x20 ≤ c.toNat ∧ OneLine text :=
  List.forall_mem_cons

theorem oneLine_nil : OneLine [] := by
  intro c hc
  cases hc

theorem oneLine_separate {parts : List (List Char)} (h : ∀ part ∈ parts, OneLine part) :
    OneLine (separate [','] parts) := by
  cases parts with
  | nil => exact oneLine_nil
  | cons part parts =>
    rw [separate_cons, oneLine_append]
    refine ⟨h part (by simp), fun c hc => ?_⟩
    obtain ⟨other, hother, hc⟩ := List.mem_flatMap.1 hc
    rcases List.mem_cons.1 hc with rfl | hc
    · decide
    · exact h other (by simp [hother]) c hc

theorem OneLine.feed_not_mem {text : List Char} (h : OneLine text) : '\n' ∉ text := by
  intro hc
  have hle := h _ hc
  simp at hle

theorem OneLine.getLast?_ne {text : List Char} (h : OneLine text) : text.getLast? ≠ some '\r' := by
  intro hc
  have hle := h _ (List.mem_of_getLast? hc)
  simp at hle

/-- A value that is printed as one of its texts, on one line. -/
structure Value.Printed (v : Value) : Prop where
  spells : Spells v v.compact
  oneLine : OneLine v.compact

theorem Value.Printed.spells_line {v : Value} (h : v.Printed) : Spells v v.line.toList := by
  rw [line, String.toList_ofList]
  exact h.spells

theorem Value.Printed.oneLine_line {v : Value} (h : v.Printed) : OneLine v.line.toList := by
  rw [line, String.toList_ofList]
  exact h.oneLine

theorem printed_null : Value.null.Printed := ⟨.null, by decide⟩

theorem printed_bool (b : Bool) : (Value.bool b).Printed := by
  refine ⟨.bool b, ?_⟩
  cases b <;> decide

theorem printed_text (s : String) : (Value.string s).Printed :=
  ⟨.string (spellsString_quote s), fun _ => le_toNat_of_mem_quote⟩

theorem printed_text? (s? : Option String) : (Value.text? s?).Printed := by
  cases s? with
  | none => exact printed_null
  | some s => exact printed_text s

theorem compact_nat (n : Nat) : (Value.nat n).compact = digitsOf n := by
  change (if (n : Int) < 0 then ['-'] else []) ++ digitsOf n = _
  rw [if_neg (by omega), List.nil_append]

theorem oneLine_nat (n : Nat) : OneLine (Value.nat n).compact := by
  intro c hc
  rw [compact_nat] at hc
  exact (printable_digitsOf n c hc).1

theorem printed_nat {n : Nat} (h : n < UInt64.size) : (Value.nat n).Printed :=
  ⟨compact_nat n ▸ .nat rfl h, oneLine_nat n⟩

theorem printed_array {items : List Value} (h : ∀ v ∈ items, v.Printed) : (Value.array items).Printed := by
  have hitems : SpellsItems items (compactItems items) ∧ ∀ part ∈ compactItems items, OneLine part := by
    induction items with
    | nil => exact ⟨.nil, nofun⟩
    | cons v items ih =>
      obtain ⟨hmore, hlines⟩ := ih fun u hu => h u (by simp [hu])
      have hv := h v (by simp)
      exact ⟨.cons hv.spells hmore, List.forall_mem_cons.2 ⟨hv.oneLine, hlines⟩⟩
  have hlisted := listed_separate blanks_nil blanks_nil (compactItems items)
  rw [List.nil_append, List.append_nil] at hlisted
  constructor
  · rw [Value.compact, List.cons_append]
    exact .array hitems.1 hlisted
  · rw [Value.compact, List.cons_append, oneLine_cons, oneLine_append]
    exact ⟨by decide, oneLine_separate hitems.2, by decide⟩

theorem oneLine_object {members : List (String × Value)} (h : ∀ m ∈ members, OneLine m.2.compact) :
    OneLine (Value.object members).compact := by
  have hmembers : ∀ part ∈ compactMembers members, OneLine part := by
    induction members with
    | nil => exact nofun
    | cons m members ih =>
      refine List.forall_mem_cons.2 ⟨?_, ih fun u hu => h u (by simp [hu])⟩
      rw [oneLine_append, oneLine_cons]
      exact ⟨fun _ => le_toNat_of_mem_quote, by decide, h m (by simp)⟩
  rw [Value.compact, List.cons_append, oneLine_cons, oneLine_append]
  exact ⟨by decide, oneLine_separate hmembers, by decide⟩

theorem printed_object {members : List (String × Value)} (h : ∀ m ∈ members, m.2.Printed) :
    (Value.object members).Printed := by
  have hmembers : SpellsMembers members (compactMembers members) := by
    induction members with
    | nil => exact .nil
    | cons m members ih =>
      have hmore := ih fun u hu => h u (by simp [hu])
      exact .cons (spellsString_quote m.1) blanks_nil blanks_nil (h m (by simp)).spells hmore
  have hlisted := listed_separate blanks_nil blanks_nil (compactMembers members)
  rw [List.nil_append, List.append_nil] at hlisted
  refine ⟨?_, oneLine_object fun m hm => (h m hm).oneLine⟩
  rw [Value.compact, List.cons_append]
  exact .object hmembers hlisted

/-! With indentation -/

theorem blanks_indent (level : Nat) : Blanks (indent level) := by
  intro c hc
  rcases List.mem_cons.1 hc with rfl | hc
  · rfl
  · rw [List.eq_of_mem_replicate hc]
    rfl

theorem exists_spread_eq (level : Nat) (opening closing : Char) (parts : List (List Char)) :
    ∃ body, spread level opening closing parts = opening :: (body ++ [closing]) ∧ Listed parts body := by
  cases parts with
  | nil => exact ⟨[], rfl, .nil blanks_nil⟩
  | cons part parts =>
    have hlisted := listed_separate (blanks_indent (level + 1)) (blanks_indent level) (part :: parts)
    refine ⟨_, ?_, hlisted⟩
    simp [spread]

/-- Values whose items are printed with indentation as their texts are printed so as well. -/
theorem spells_indented_array {level : Nat} {items : List Value}
    (h : ∀ v ∈ items, Spells v (v.indented (level + 1))) :
    Spells (.array items) ((Value.array items).indented level) := by
  have hitems : SpellsItems items (indentedItems (level + 1) items) := by
    induction items with
    | nil => exact .nil
    | cons v items ih => exact .cons (h v (by simp)) (ih fun u hu => h u (by simp [hu]))
  obtain ⟨body, hspread, hlisted⟩ := exists_spread_eq level '[' ']' (indentedItems (level + 1) items)
  rw [Value.indented, hspread]
  exact .array hitems hlisted

theorem spells_indented_object {level : Nat} {members : List (String × Value)}
    (h : ∀ m ∈ members, Spells m.2 (m.2.indented (level + 1))) :
    Spells (.object members) ((Value.object members).indented level) := by
  have hmembers : SpellsMembers members (indentedMembers (level + 1) members) := by
    induction members with
    | nil => exact .nil
    | cons m members ih =>
      have hmore := ih fun u hu => h u (by simp [hu])
      have hblank : Blanks [' '] := by
        intro c hc
        rw [List.mem_singleton.1 hc]
        rfl
      exact .cons (spellsString_quote m.1) blanks_nil hblank (h m (by simp)) hmore
  obtain ⟨body, hspread, hlisted⟩ := exists_spread_eq level '\x7b' '\x7d' (indentedMembers (level + 1) members)
  rw [Value.indented, hspread]
  exact .object hmembers hlisted

theorem spells_indented_text? (s? : Option String) (level : Nat) :
    Spells (.text? s?) ((Value.text? s?).indented level) := by
  cases s? with
  | none => exact .null
  | some s => exact (printed_text s).spells

end ScriptBench.Json
