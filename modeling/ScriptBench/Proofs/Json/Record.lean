import ScriptBench.Json.Record

/-! Drafts of records: what all readers of fields keep holds of the draft that a record is made from. -/
namespace ScriptBench.Json

open Text

theorem bind_eq_ok {ε α β : Type} {x : Except ε α} {f : α → Except ε β} {b : β} :
    x >>= f = .ok b ↔ ∃ a, x = .ok a ∧ f a = .ok b := by
  cases x with
  | error e => simp [bind, Except.bind]
  | ok a => simp [bind, Except.bind]

theorem eq_ok_of_toOption {ε α : Type} {x : Except ε α} {a : α} (h : x.toOption = some a) : x = .ok a := by
  cases x with
  | error e => cases h
  | ok b =>
    cases h
    rfl

variable {σ α : Type}

/-- Whatever is read into a draft with a property, the draft keeps the property. -/
def Keeps (P : σ → Prop) (read : σ → Reader σ) : Prop :=
  ∀ ⦃s text s' rest⦄, P s → read s text = .ok (s', rest) → P s'

theorem readMoreMembers_keeps {P : σ → Prop} {member : σ → Reader σ} (hm : Keeps P member) (fuel : Nat) :
    Keeps P (readMoreMembers member fuel) := by
  intro s text s' rest hs h
  induction fuel generalizing s text with
  | zero => simp [readMoreMembers] at h
  | succ fuel ih =>
    unfold readMoreMembers at h
    split at h
    · cases h
    · cases h
      exact hs
    · split at h
      · cases h
      · obtain ⟨⟨s₁, rest₁⟩, h₁, h⟩ := bind_eq_ok.1 h
        exact ih (hm hs h₁) h
      · cases h
      · cases h
    · cases h

theorem readMembers_keeps {P : σ → Prop} {member : σ → Reader σ} (hm : Keeps P member) :
    Keeps P (readMembers member) := by
  intro s text s' rest hs h
  unfold readMembers at h
  split at h
  · cases h
  · cases h
    exact hs
  · obtain ⟨⟨s₁, rest₁⟩, h₁, h⟩ := bind_eq_ok.1 h
    exact readMoreMembers_keeps hm _ (hm hs h₁) h
  · cases h

/-- A field keeps what storing its values keeps. -/
theorem Slot.required_keeps {β : Type} {P : σ → Prop} {name : String} {get : σ → Option β}
    {put : σ → β → σ} {item : Reader β}
    (h : ∀ ⦃s text b rest⦄, P s → item text = .ok (b, rest) → P (put s b)) :
    Keeps P (Slot.required name get put item).read := by
  intro s text s' rest hs hr
  obtain ⟨⟨b, rest₁⟩, hb, hr⟩ := bind_eq_ok.1 hr
  cases hr
  exact h hs hb

theorem Slot.optional_keeps {β : Type} {P : σ → Prop} {name : String} {get : σ → Option β}
    {put : σ → β → σ} {item : Reader β}
    (h : ∀ ⦃s text b rest⦄, P s → item text = .ok (b, rest) → P (put s b)) :
    Keeps P (Slot.optional name get put item).read :=
  @Slot.required_keeps σ β P name get put item h

variable {shape : Shape σ α} {P : σ → Prop}

theorem Shape.readMember_keeps (h : ∀ slot ∈ shape.slots, Keeps P slot.read) :
    Keeps P shape.readMember := by
  intro s text s' rest hs hr
  obtain ⟨⟨name, rest₁⟩, _, hr⟩ := bind_eq_ok.1 hr
  dsimp only at hr
  split at hr
  · rename_i slot hslot
    split at hr
    · cases hr
    · obtain ⟨rest₂, _, hr⟩ := bind_eq_ok.1 hr
      exact h slot (List.mem_of_find?_eq_some hslot) hs hr
  · obtain ⟨rest₂, _, hr⟩ := bind_eq_ok.1 hr
    obtain ⟨rest₃, _, hr⟩ := bind_eq_ok.1 hr
    cases hr
    exact hs

theorem Shape.readSlots_keeps {slots : List (Slot σ)} (h : ∀ slot ∈ slots, Keeps P slot.read)
    (count : Nat) : Keeps P (shape.readSlots count slots) := by
  intro s text s' rest hs hr
  induction slots generalizing count s text with
  | nil =>
    cases hr
    exact hs
  | cons slot more ih =>
    obtain ⟨next?, _, hr⟩ := bind_eq_ok.1 hr
    have hmore : ∀ slot ∈ more, Keeps P slot.read := fun slot hslot => h slot (by simp [hslot])
    cases next? with
    | some next =>
      obtain ⟨⟨s₁, rest₁⟩, h₁, hr⟩ := bind_eq_ok.1 hr
      exact ih hmore (count + 1) (h slot (by simp) hs h₁) hr
    | none =>
      dsimp only at hr
      split at hr
      · exact ih hmore (count + 1) hs hr
      · cases hr

/-- A record is made from a draft that has every property which the fields keep. -/
theorem Shape.exists_draft_of_read (h : ∀ slot ∈ shape.slots, Keeps P slot.read) (hempty : P shape.empty)
    {text rest : List Char} {a : α} (hr : shape.read text = .ok (a, rest)) :
    ∃ s, P s ∧ shape.build s = .ok a := by
  have hfinish : ∀ {s rest₁}, P s → shape.finish s rest₁ = .ok (a, rest) →
      ∃ s, P s ∧ shape.build s = .ok a := by
    intro s rest₁ hs hf
    unfold Shape.finish at hf
    split at hf
    · rename_i b hb
      cases hf
      exact ⟨s, hs, hb⟩
    · cases hf
  unfold Shape.read at hr
  split at hr
  · cases hr
  · obtain ⟨⟨s, rest₁⟩, hs, hr⟩ := bind_eq_ok.1 hr
    exact hfinish (readMembers_keeps (Shape.readMember_keeps h) hempty hs) hr
  · obtain ⟨⟨s, rest₁⟩, hs, hr⟩ := bind_eq_ok.1 hr
    obtain ⟨rest₂, _, hr⟩ := bind_eq_ok.1 hr
    exact hfinish (Shape.readSlots_keeps h 0 hempty hs) hr
  · cases hr

/-! Names of variants -/

theorem readVariantName_mem {variants : List (String × α)} {text rest : List Char} {a : α}
    (h : readVariantName variants text = .ok (a, rest)) : a ∈ variants.map (·.2) := by
  obtain ⟨⟨name, rest₁⟩, _, h⟩ := bind_eq_ok.1 h
  dsimp only at h
  split at h
  · rename_i b hb
    cases h
    obtain ⟨before, behind, rfl, _⟩ := List.lookup_eq_some_iff.1 hb
    simp
  · cases h

/-- Only a value that has a name among the variants can be read. -/
theorem readVariant_mem {variants : List (String × α)} {text rest : List Char} {a : α}
    (h : readVariant variants text = .ok (a, rest)) : a ∈ variants.map (·.2) := by
  unfold readVariant at h
  split at h
  · cases h
  · exact readVariantName_mem h
  · split at h
    · cases h
    · obtain ⟨⟨b, rest₁⟩, hb, h⟩ := bind_eq_ok.1 h
      obtain ⟨rest₂, _, h⟩ := bind_eq_ok.1 h
      obtain ⟨rest₃, _, h⟩ := bind_eq_ok.1 h
      obtain ⟨rest₄, _, h⟩ := bind_eq_ok.1 h
      cases h
      exact readVariantName_mem hb
    · cases h
    · cases h
  · cases h

/-- What `parse` reads, its reader has read in front of the rest. -/
theorem read_of_parse {read : Reader α} {text : String} {a : α} (h : parse read text = .ok a) :
    ∃ rest, read text.toList = .ok (a, rest) := by
  unfold parse at h
  dsimp only at h
  split at h
  · cases h
  · rename_i b rest hread
    split at h
    · cases h
      exact ⟨rest, hread⟩
    · cases h

end ScriptBench.Json
