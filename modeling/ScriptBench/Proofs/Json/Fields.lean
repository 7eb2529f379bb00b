import ScriptBench.Proofs.Json.Reading

/-! Records are read from their members in any order. -/
namespace ScriptBench.Json

variable {σ α : Type}

/-- A member of an object, and what it does to the draft of a record. -/
structure Field (σ : Type) where
  name : String
  value : Value
  put : σ → σ

def Field.member (f : Field σ) : String × Value := (f.name, f.value)

/-- Whether a draft already holds the field with a name. -/
def Shape.holds (shape : Shape σ α) (s : σ) (name : String) : Bool :=
  (shape.slots.find? (·.name == name)).any (·.taken s)

namespace Field

/-- The member is one of a shape. -/
def Fits (shape : Shape σ α) (f : Field σ) : Prop :=
  ∃ slot, shape.slots.find? (·.name == f.name) = some slot ∧ ∀ s, Takes (slot.read s) f.value (f.put s)

/-- Two members of a shape have nothing to do with each other. -/
structure Apart (shape : Shape σ α) (f g : Field σ) : Prop where
  left : ∀ s, shape.holds (f.put s) g.name = shape.holds s g.name
  right : ∀ s, shape.holds (g.put s) f.name = shape.holds s f.name
  comm : ∀ s, f.put (g.put s) = g.put (f.put s)

theorem Apart.symm {shape : Shape σ α} {f g : Field σ} (h : Apart shape f g) : Apart shape g f :=
  ⟨h.right, h.left, fun s => (h.comm s).symm⟩

end Field

/-- A draft with members put in, one behind the other. -/
def filled (fs : List (Field σ)) (s : σ) : σ := fs.foldl (fun s f => f.put s) s

variable {shape : Shape σ α} {fs gs : List (Field σ)}

theorem takesMember_of_fits {f : Field σ} (hfits : f.Fits shape) {s : σ} (hfree : shape.holds s f.name = false) :
    TakesMember shape.readMember s f.name f.value (f.put s) := by
  obtain ⟨slot, hslot, htakes⟩ := hfits
  refine takesMember_field hslot ?_ (htakes s)
  rw [Shape.holds, hslot] at hfree
  exact hfree

theorem gathers_fields (hfits : ∀ f ∈ fs, f.Fits shape) (hapart : fs.Pairwise (Field.Apart shape)) {s : σ}
    (hfree : ∀ f ∈ fs, shape.holds s f.name = false) :
    Gathers shape.readMember s (fs.map Field.member) (filled fs s) := by
  induction fs generalizing s with
  | nil => exact .nil s
  | cons f fs ih =>
    obtain ⟨hfirst, hapart⟩ := List.pairwise_cons.1 hapart
    have hmember := takesMember_of_fits (hfits f (by simp)) (hfree f (by simp))
    have hfree' : ∀ g ∈ fs, shape.holds (f.put s) g.name = false := by
      intro g hg
      rw [(hfirst g hg).left]
      exact hfree g (by simp [hg])
    exact .cons hmember (ih (fun g hg => hfits g (by simp [hg])) hapart hfree')

/-- The order in which members that are apart are put in makes no difference. -/
theorem filled_perm (h : fs.Perm gs) (hapart : fs.Pairwise (Field.Apart shape)) (s : σ) :
    filled fs s = filled gs s := by
  induction h generalizing s with
  | nil => rfl
  | cons f _ ih => exact ih (List.pairwise_cons.1 hapart).2 (f.put s)
  | swap f g fs =>
    have hfg := (List.pairwise_cons.1 hapart).1 f (by simp)
    rw [filled, filled, List.foldl_cons, List.foldl_cons, List.foldl_cons, List.foldl_cons, hfg.comm]
  | trans h _ ih ih' => rw [ih hapart, ih' (h.pairwise hapart Field.Apart.symm)]

theorem exists_perm_of_map {α β : Type} {f : α → β} {as : List α} {bs : List β} (h : (as.map f).Perm bs) :
    ∃ as', as.Perm as' ∧ bs = as'.map f := by
  generalize hmap : as.map f = bs₀ at h
  induction h generalizing as with
  | nil => exact ⟨as, .refl as, hmap.symm⟩
  | cons b _ ih =>
    obtain ⟨a, rest, rfl, rfl, hrest⟩ := List.map_eq_cons_iff.1 hmap
    obtain ⟨as', hperm, rfl⟩ := ih hrest
    exact ⟨a :: as', hperm.cons a, rfl⟩
  | swap b c bs =>
    obtain ⟨a, rest, rfl, rfl, hrest⟩ := List.map_eq_cons_iff.1 hmap
    obtain ⟨a', rest, rfl, rfl, rfl⟩ := List.map_eq_cons_iff.1 hrest
    exact ⟨a' :: a :: rest, .swap a' a rest, rfl⟩
  | trans _ _ ih ih' =>
    obtain ⟨as₁, hperm, rfl⟩ := ih hmap
    obtain ⟨as₂, hperm', rfl⟩ := ih' rfl
    exact ⟨as₂, hperm.trans hperm', rfl⟩

/-- A record is read from its members, whatever their order is. -/
theorem takes_record_of_perm {members : List (String × Value)} {a : α} (hfits : ∀ f ∈ fs, f.Fits shape)
    (hapart : fs.Pairwise (Field.Apart shape)) (hempty : ∀ f ∈ fs, shape.holds shape.empty f.name = false)
    (hbuild : shape.build (filled fs shape.empty) = .ok a) (hperm : (fs.map Field.member).Perm members) :
    Takes shape.read (.object members) a := by
  obtain ⟨gs, hfs, rfl⟩ := exists_perm_of_map hperm
  have hgathers : Gathers shape.readMember shape.empty (gs.map Field.member) (filled gs shape.empty) :=
    gathers_fields (fun f hf => hfits f (hfs.mem_iff.2 hf)) (hfs.pairwise hapart Field.Apart.symm)
      fun f hf => hempty f (hfs.mem_iff.2 hf)
  refine takes_record hgathers ?_
  rw [← filled_perm hfs hapart]
  exact hbuild

end ScriptBench.Json
