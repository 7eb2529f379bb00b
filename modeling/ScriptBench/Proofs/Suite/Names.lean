import Mathlib.Data.List.Induction
import Mathlib.Data.List.Nodup
import ScriptBench.Proofs.Script.Scripts
import ScriptBench.Proofs.Suite.Reopened

/-! The names of tests that were given none. The number in such a name is larger by one than the number of tests that
are held when the test is added. Names stay distinct as long as no test that is held has that number already. -/
namespace ScriptBench

/-- What a test is called by. -/
def Test.label (t : Test) : String × Option String := (t.displayName, t.functionName?)

theorem Test.Rerun.label_eq {t t' : Test} (h : t.Rerun t') : t'.label = t.label := by
  rw [h]
  rfl

namespace Suite

variable {ω : Type} {world : World ω} {s s' : Suite} {w w' : ω} {id : Uuid}

def numbered (n : Nat) : String := s!"Test {n}"

theorem numbered_inj {m n : Nat} : numbered m = numbered n ↔ m = n := by
  constructor
  · intro h
    have hchars := congrArg String.toList h
    simp only [numbered, String.toList_append, List.append_cancel_left_eq] at hchars
    exact Script.toString_inj.1 (String.toList_inj.1 hchars)
  · rintro rfl
    rfl

def names (s : Suite) : List String := s.tests.map (·.displayName)

def labels (s : Suite) : List (String × Option String) := s.tests.map Test.label

theorem names_eq (s : Suite) : s.names = s.labels.map (·.1) := by
  unfold names labels
  rw [List.map_map]
  rfl

/-- A test that is added has nothing to be called by but its number. -/
def Deed.IsUnnamed : Deed → Prop
  | .add _ source name? => name? = none ∧ Script.functionName? source = none
  | .remove _ | .run _ _ | .runAll _ => True

instance : DecidablePred Deed.IsUnnamed
  | .add _ source name? => inferInstanceAs (Decidable (name? = none ∧ Script.functionName? source = none))
  | .remove _ | .run _ _ | .runAll _ => isTrue trivial

/-! Labels behind one deed -/

theorem labels_add {source : String} {name? : Option String} (hunnamed : (Deed.add id source name?).IsUnnamed)
    (h : s.act world w (.add id source name?) = some (s', w')) :
    s'.labels = s.labels ++ [(numbered (s.tests.length + 1), none)] := by
  obtain ⟨hname, hfunction⟩ := hunnamed
  have hlabel : (s.newTest id source name?).label = (numbered (s.tests.length + 1), none) := by
    unfold newTest nameFor
    rw [hname, hfunction]
    rfl
  cases h
  change (s.tests ++ [s.newTest id source name?]).map Test.label = _
  rw [List.map_append, List.map_singleton, hlabel]
  rfl

theorem names_add {source : String} {name? : Option String} (hunnamed : (Deed.add id source name?).IsUnnamed)
    (h : s.act world w (.add id source name?) = some (s', w')) :
    s'.names = s.names ++ [numbered (s.tests.length + 1)] := by
  rw [names_eq, names_eq, labels_add hunnamed h, List.map_append]
  rfl

theorem labels_remove (h : s.act world w (.remove id) = some (s', w')) : s'.labels.Sublist s.labels := by
  have hturns := (done_of_act h).turns.2
  unfold labels
  rcases hturns with ⟨front, t, rest, hsplit, _, _, hrest⟩ | ⟨_, hsame⟩
  · rw [hsplit, hrest]
    exact ((List.sublist_cons_self t rest).append_left front).map Test.label
  · rw [hsame]

theorem labels_run {deed : Deed} (hruns : deed.runs = true) (h : s.act world w deed = some (s', w')) :
    s'.labels = s.labels := by
  have hturns := (done_of_act h).turns.2
  unfold labels
  cases deed with
  | add | remove => cases hruns
  | run id main =>
    rcases hturns with ⟨front, t, t', rest, hsplit, _, _, hrerun, hrest⟩ | ⟨_, hsame⟩
    · have hlabel := hrerun.label_eq
      rw [hsplit, hrest, List.map_append, List.map_append, List.map_cons, List.map_cons, hlabel]
    · rw [hsame]
  | runAll main =>
    obtain ⟨hlength, hrerun⟩ := hturns
    apply List.ext_getElem
    · rw [List.length_map, List.length_map, hlength]
    · intro i hi hi'
      rw [List.length_map] at hi'
      obtain ⟨t', ht', hlabel⟩ := hrerun i s.tests[i] (List.getElem?_eq_getElem hi')
      obtain ⟨_, hget⟩ := List.getElem?_eq_some_iff.1 ht'
      rw [List.getElem_map, List.getElem_map, hget]
      exact hlabel.label_eq

theorem labels_act {deed : Deed} (hunnamed : deed.IsUnnamed) (h : s.act world w deed = some (s', w')) :
    (∃ id source name?, deed = .add id source name?) ∧
        s'.labels = s.labels ++ [(numbered (s.tests.length + 1), none)] ∨
      s'.labels.Sublist s.labels := by
  cases deed with
  | add id source name? => exact Or.inl ⟨⟨id, source, name?, rfl⟩, labels_add hunnamed h⟩
  | remove id => exact Or.inr (labels_remove h)
  | run | runAll =>
    rw [labels_run rfl h]
    exact Or.inr (List.Sublist.refl _)

/-! Labels in the course of a history -/

def actAll (world : World ω) (deeds : List Deed) (p : Suite × ω) : Option (Suite × ω) :=
  deeds.foldlM (fun p deed => p.1.act world p.2 deed) p

/-- A suite in the course of a history, behind the deeds that were done before. -/
def Passes (world : World ω) (s : Suite) (w : ω) (deeds before : List Deed) (s' : Suite) : Prop :=
  before <+: deeds ∧ ∃ w', actAll world before (s, w) = some (s', w')

theorem actAll_concat {before : List Deed} {deed : Deed} {p r : Suite × ω} :
    actAll world (before ++ [deed]) p = some r ↔
      ∃ q, actAll world before p = some q ∧ q.1.act world q.2 deed = some r := by
  unfold actAll
  rw [List.foldlM_append]
  constructor
  · intro h
    obtain ⟨q, hq, hr⟩ := Option.bind_eq_some_iff.1 h
    rw [List.foldlM_cons] at hr
    obtain ⟨r', hr', hend⟩ := Option.bind_eq_some_iff.1 hr
    cases hend
    exact ⟨q, hq, hr'⟩
  · rintro ⟨q, hq, hr⟩
    rw [hq]
    change (q.1.act world q.2 deed).bind some = some r
    rw [hr]
    rfl

/-- Deeds that run no program have an end. -/
theorem exists_actAll {deeds : List Deed} (h : ∀ deed ∈ deeds, deed.runs = false) (s : Suite) (w : ω) :
    ∃ s' w', actAll world deeds (s, w) = some (s', w') := by
  induction deeds generalizing s w with
  | nil => exact ⟨s, w, rfl⟩
  | cons deed deeds ih =>
    obtain ⟨hdeed, hdeeds⟩ := List.forall_mem_cons.1 h
    have hact := @isSome_act ω world s w deed hdeed
    obtain ⟨⟨s₁, w₁⟩, hact⟩ := Option.isSome_iff_exists.1 hact
    obtain ⟨s', w', hall⟩ := ih hdeeds s₁ w₁
    refine ⟨s', w', ?_⟩
    unfold actAll at hall ⊢
    rw [List.foldlM_cons, hact]
    exact hall

theorem mem_of_prefix_concat {before deeds : List Deed} {deed : Deed} (h : before ++ [deed] <+: deeds) :
    deed ∈ deeds :=
  h.subset (List.mem_append_right _ List.mem_cons_self)

theorem Passes.induction {deeds before : List Deed} {motive : Suite → Prop} (start : motive s)
    (step : ∀ before deed s₁ w₁ s₂ w₂, before ++ [deed] <+: deeds → Passes world s w deeds before s₁ →
      s₁.act world w₁ deed = some (s₂, w₂) → motive s₁ → motive s₂)
    (h : Passes world s w deeds before s') : motive s' := by
  obtain ⟨hinit, w', hall⟩ := h
  -- The suite behind the last deed is told by the one before it.
  induction before using List.reverseRecOn generalizing s' w' with
  | nil =>
    cases hall
    exact start
  | append_singleton before deed ih =>
    obtain ⟨⟨s₁, w₁⟩, hbefore, hact⟩ := actAll_concat.1 hall
    have hinit₁ : before <+: deeds := (List.prefix_append before [deed]).trans hinit
    exact step before deed s₁ w₁ s' w' hinit ⟨hinit₁, w₁, hbefore⟩ hact (ih hinit₁ w₁ hbefore)

/-- A test that was named by its number has no function, so it is called by its name alone. -/
theorem Passes.identities {deeds before : List Deed} (hunnamed : ∀ deed ∈ deeds, deed.IsUnnamed)
    (hempty : s.tests = []) (h : Passes world s w deeds before s') : s'.tests.map Test.identity = s'.names := by
  have hfunctions : ∀ l ∈ s'.labels, l.2 = none := by
    apply h.induction (motive := fun s => ∀ l ∈ s.labels, l.2 = none)
    · rw [labels, hempty]
      intro l hl
      cases hl
    · intro before deed s₁ w₁ s₂ w₂ hinit _ hact hall l hl
      have hdeed := hunnamed deed (mem_of_prefix_concat hinit)
      rcases labels_act hdeed hact with ⟨_, hlabels⟩ | hsublist
      · rw [hlabels, List.mem_append, List.mem_singleton] at hl
        rcases hl with hl | hl
        · exact hall l hl
        · rw [hl]
      · exact hall l (hsublist.subset hl)
  apply List.map_congr_left
  intro t ht
  have hnone : t.functionName? = none := hfunctions t.label (List.mem_map_of_mem ht)
  rw [Test.identity, hnone]
  rfl

theorem nodup_concat_iff {names : List String} {name : String} :
    (names ++ [name]).Nodup ↔ name ∉ names ∧ names.Nodup := by
  rw [List.nodup_append_comm, List.singleton_append, List.nodup_cons]

/-! Names that count the tests -/

def InOrder (names : List String) : Prop := names = (List.range names.length).map fun i => numbered (i + 1)

theorem InOrder.nodup {names : List String} (h : InOrder names) : names.Nodup := by
  have hinj : Function.Injective fun i => numbered (i + 1) := by
    intro i j hij
    exact Nat.succ.inj (numbered_inj.1 hij)
  rw [h]
  exact List.nodup_range.map hinj

theorem inOrder_concat_iff {names : List String} {name : String} :
    InOrder (names ++ [name]) ↔ InOrder names ∧ name = numbered (names.length + 1) := by
  unfold InOrder
  rw [List.length_append, List.length_singleton, List.range_succ, List.map_append, List.map_singleton]
  constructor
  · intro h
    obtain ⟨hnames, hname⟩ := List.append_inj h (by simp)
    exact ⟨hnames, List.singleton_inj.1 hname⟩
  · rintro ⟨hnames, hname⟩
    rw [← hnames, hname]

theorem InOrder.numbered_not_mem {names : List String} (h : InOrder names) :
    numbered (names.length + 1) ∉ names :=
  (nodup_concat_iff.1 (inOrder_concat_iff.2 ⟨h, rfl⟩).nodup).1

/-- Where one of the names is gone, the next number is still held just if that name was not the last. -/
theorem InOrder.numbered_mem_iff {front rest : List String} {name : String} (h : InOrder (front ++ name :: rest)) :
    numbered ((front ++ rest).length + 1) ∈ front ++ rest ↔ rest ≠ [] := by
  rcases List.eq_nil_or_concat' rest with rfl | ⟨rest, last, rfl⟩
  · obtain ⟨_, hname⟩ := inOrder_concat_iff.1 h
    have hgone := (nodup_concat_iff.1 h.nodup).1
    rw [List.append_nil, ← hname]
    exact iff_of_false hgone (fun hne => hne rfl)
  · rw [← List.cons_append, ← List.append_assoc] at h
    obtain ⟨_, hlast⟩ := inOrder_concat_iff.1 h
    have hlength : (front ++ (rest ++ [last])).length = (front ++ name :: rest).length := by
      simp only [List.length_append, List.length_cons, List.length_nil]
    rw [hlength, ← hlast]
    simp

/-- As long as no test is removed but the last one, the names count the tests. -/
theorem Passes.inOrder {deeds before : List Deed} (hunnamed : ∀ deed ∈ deeds, deed.IsUnnamed) (hempty : s.tests = [])
    (hlast : ∀ before id s₁, before ++ [.remove id] <+: deeds → Passes world s w deeds before s₁ →
      ∀ front t rest, s₁.tests = front ++ t :: rest → t.id = id → rest = [])
    (h : Passes world s w deeds before s') : InOrder s'.names := by
  apply h.induction (motive := fun s => InOrder s.names)
  · rw [names, hempty]
    rfl
  · intro before deed s₁ w₁ s₂ w₂ hinit hpasses hact horder
    cases deed with
    | add id source name? =>
      rw [names_add (hunnamed _ (mem_of_prefix_concat hinit)) hact, inOrder_concat_iff, names, List.length_map]
      exact ⟨horder, rfl⟩
    | remove id =>
      rcases (done_of_act hact).turns.2 with ⟨front, t, rest, hsplit, ht, _, hrest⟩ | ⟨_, hsame⟩
      · have hnil := hlast before id s₁ hinit hpasses front t rest hsplit ht
        rw [names, hsplit, hnil, List.map_append] at horder
        rw [names, hrest, hnil, List.append_nil]
        exact (inOrder_concat_iff.1 horder).1
      · rw [names, hsame]
        exact horder
    | run | runAll =>
      rw [names_eq, labels_run rfl hact, ← names_eq]
      exact horder

theorem tests_remove {front rest : List Test} {t : Test} (hsplit : s.tests = front ++ t :: rest) (ht : t.id = id)
    (hfront : ∀ u ∈ front, u.id ≠ id) (h : s.act world w (.remove id) = some (s', w')) : s'.tests = front ++ rest := by
  have hfound : s.find? id = some t := by
    apply List.find?_eq_some_iff_append.2
    refine ⟨beq_iff_eq.2 ht, front, rest, hsplit, fun u hu => ?_⟩
    simpa using hfront u hu
  unfold act at h
  dsimp only at h
  rw [remove_of_some hfound] at h
  cases h
  change s.tests.eraseP _ = _
  rw [hsplit, eraseP_split ht hfront]

/-- Where the names count the tests, a test is removed and another one is added, the names stay distinct just if the
test that was removed was the last one. -/
theorem distinct_names_behind_removal_iff {id' : Uuid} {source : String} {name? : Option String} {s₁ : Suite} {w₁ : ω}
    {front rest : List Test} {t : Test} (h : InOrder s.names) (hunnamed : (Deed.add id' source name?).IsUnnamed)
    (hsplit : s.tests = front ++ t :: rest) (ht : t.id = id) (hfront : ∀ u ∈ front, u.id ≠ id)
    (hremove : s.act world w (.remove id) = some (s₁, w₁))
    (hadd : s₁.act world w₁ (.add id' source name?) = some (s', w')) : s'.names.Nodup ↔ rest = [] := by
  have hrest := tests_remove hsplit ht hfront hremove
  have hnames : s₁.names = front.map (·.displayName) ++ rest.map (·.displayName) := by
    rw [names, hrest, List.map_append]
  have hlength : s₁.tests.length = (front.map (·.displayName) ++ rest.map (·.displayName)).length := by
    rw [← hnames, names, List.length_map]
  have horder : InOrder (front.map (·.displayName) ++ t.displayName :: rest.map (·.displayName)) := by
    rw [names, hsplit, List.map_append] at h
    exact h
  have hdistinct : (front.map (·.displayName) ++ rest.map (·.displayName)).Nodup :=
    horder.nodup.sublist ((List.sublist_cons_self _ _).append_left _)
  have hheld := not_congr horder.numbered_mem_iff
  rw [not_not, List.map_eq_nil_iff] at hheld
  rw [names_add hunnamed hadd, nodup_concat_iff, hlength, hnames, and_iff_left hdistinct]
  exact hheld

/-! Distinct names -/

/-- Tests that are added without a name, none of whose sources has a test function, are called by their names, and deeds
that run no program always have an end. The names are distinct at any time just if no test is added while the number
it gets is held by another one. -/
theorem distinct_names_iff (world : World ω) {s : Suite} (hempty : s.tests = []) (w : ω) {deeds : List Deed}
    (hunnamed : ∀ deed ∈ deeds, deed.IsUnnamed) :
    ((∀ deed ∈ deeds, deed.runs = false) → ∀ before, before <+: deeds → ∃ s', Passes world s w deeds before s') ∧
    (∀ before s', Passes world s w deeds before s' → s'.tests.map Test.identity = s'.names) ∧
    ((∀ before s', Passes world s w deeds before s' → s'.names.Nodup) ↔
      ∀ before id source name? s', before ++ [.add id source name?] <+: deeds → Passes world s w deeds before s' →
        numbered (s'.tests.length + 1) ∉ s'.names) := by
  refine ⟨fun hruns before hinit => ?_, fun _ _ h => h.identities hunnamed hempty, fun hall => ?_, fun hfree => ?_⟩
  · have hbefore : ∀ deed ∈ before, deed.runs = false := fun deed hdeed => hruns deed (hinit.subset hdeed)
    obtain ⟨s', w', h⟩ := @exists_actAll ω world before hbefore s w
    exact ⟨s', hinit, w', h⟩
  · rintro before id source name? s' hadd ⟨hinit, w', h⟩
    have hdeed := hunnamed _ (mem_of_prefix_concat hadd)
    obtain ⟨⟨s₂, w₂⟩, hact⟩ := Option.isSome_iff_exists.1 (@isSome_act ω world s' w' (.add id source name?) rfl)
    have hdistinct := hall _ s₂ ⟨hadd, w₂, actAll_concat.2 ⟨_, h, hact⟩⟩
    rw [names_add hdeed hact, nodup_concat_iff] at hdistinct
    exact hdistinct.1
  · intro before s' h
    apply h.induction (motive := fun s => s.names.Nodup)
    · rw [names, hempty]
      exact List.nodup_nil
    · intro before deed s₁ w₁ s₂ w₂ hinit hpasses hact hdistinct
      have hdeed := hunnamed deed (mem_of_prefix_concat hinit)
      rcases labels_act hdeed hact with ⟨⟨id, source, name?, rfl⟩, _⟩ | hsublist
      · rw [names_add hdeed hact, nodup_concat_iff]
        exact ⟨hfree before id source name? s₁ hinit hpasses, hdistinct⟩
      · rw [names_eq] at hdistinct ⊢
        exact (hsublist.map (·.1)).nodup hdistinct

/-- A test is removed when it is the only one, and another one gets its number. -/
theorem distinct_names_only_one :
    let deeds : List Deed :=
      [.add (.version4 1) "assert 1 == 1" none, .remove (.version4 1), .add (.version4 2) "assert 2 == 2" none]
    (∀ deed ∈ deeds, deed.IsUnnamed) ∧
    ∀ before s', Passes (Bench.world .memory ⟨none, "main"⟩) ⟨"ana", []⟩ (Bench.around .empty) deeds before s' →
      s'.names.Nodup := by
  intro deeds
  have hunnamed : ∀ deed ∈ deeds, deed.IsUnnamed := by decide
  refine ⟨hunnamed, ?_⟩
  obtain ⟨_, _, hdistinct⟩ := distinct_names_iff (Bench.world .memory ⟨none, "main"⟩) (s := ⟨"ana", []⟩) rfl
    (Bench.around .empty) hunnamed
  rw [hdistinct]
  intro before id source name? s' _ hpasses
  have horder : InOrder s'.names := by
    apply hpasses.inOrder hunnamed rfl
    rintro before id s₁ hinit ⟨_, w₁, hall⟩ front t rest hsplit _
    -- Only the first deed stands in front of the one that removes a test.
    rcases before with _ | ⟨first, _ | ⟨second, before⟩⟩
    · simp [deeds] at hinit
    · have hfirst : first = .add (.version4 1) "assert 1 == 1" none := by
        simp only [deeds, List.cons_append, List.cons_prefix_cons] at hinit
        exact hinit.1
      rw [hfirst] at hall
      cases hall
      have hlength : 1 = (front ++ t :: rest).length := congrArg List.length hsplit
      rw [List.length_append, List.length_cons] at hlength
      exact List.eq_nil_of_length_eq_zero (by omega)
    · cases before <;> simp [deeds] at hinit
  have hfree := horder.numbered_not_mem
  rw [names, List.length_map] at hfree
  exact hfree

/-- The number of the second test is given again when the first one is gone. -/
theorem number_given_twice :
    let deeds : List Deed :=
      [.add (.version4 1) "assert 1 == 1" none, .add (.version4 2) "assert 2 == 2" none, .remove (.version4 1),
        .add (.version4 3) "assert 3 == 3" none]
    ∃ s b, Suite.load (Bench.world .memory ⟨none, "main"⟩) "ana" (Bench.around .empty) = .ok ⟨"ana", []⟩ ∧
      (∀ deed ∈ deeds, deed.IsUnnamed) ∧
      actAll (Bench.world .memory ⟨none, "main"⟩) deeds (⟨"ana", []⟩, Bench.around .empty) = some (s, b) ∧
      s.names = ["Test 2", "Test 2"] ∧ ¬s.names.Nodup := by
  intro deeds
  exact ⟨_, _, rfl, by decide, rfl, by decide, by decide⟩

end Suite

end ScriptBench
