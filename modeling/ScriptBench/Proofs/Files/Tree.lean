import ScriptBench.Proofs.Files.Disk

/-! Disks on which everything stands in a directory. There a path that never goes up leads to its place as soon as
something stands there. -/
namespace ScriptBench.Disk

/-- Everything stands in a directory. -/
def IsTree (d : Disk) : Prop :=
  ∀ (q : Location) (name : String), (d.find? (q ++ [name])).isSome → d.isDirectory q = true

variable {d d' : Disk}

theorem IsTree.isDirectory_of_prefix (h : d.IsTree) {p q : Location} (hq : d.isDirectory q = true) (hpq : p <+: q) :
    d.isDirectory p = true := by
  obtain ⟨rest, rfl⟩ := hpq
  induction rest generalizing p with
  | nil =>
    rw [List.append_nil] at hq
    exact hq
  | cons name rest ih =>
    have hnext : d.isDirectory (p ++ [name]) = true := by
      refine ih ?_
      rw [List.append_assoc]
      exact hq
    exact h p name (isSome_of_isDirectory hnext)

/-- In a tree a way that never goes up can be walked to every directory that it leads to, if its names are not too
long. -/
theorem IsTree.walk (h : d.IsTree) {here location : Location} {parts : List String} (hup : ".." ∉ parts)
    (hwalk : d'.walk here parts = .ok location) (hdirectory : d.isDirectory location = true) :
    d.walk here parts = .ok location := by
  induction parts generalizing here with
  | nil => exact hwalk
  | cons part parts ih =>
    obtain ⟨next, hstep, hrest⟩ := walk_cons_eq_ok_iff.1 hwalk
    obtain ⟨_, hnext, hor⟩ := step_eq_ok_iff.1 hstep
    have hup' : ".." ∉ parts := fun hmem => hup (List.mem_cons_of_mem part hmem)
    have hinside : ∀ (here : Location) (parts : List String), ".." ∉ parts → here <+: parts.foldl Path.follow here :=
      fun here parts hup => (Path.OnWay.prefix_of_no_up ⟨0, rfl⟩ hup)
    have hend := foldl_follow_of_walk hwalk
    have hhere : d.isDirectory here = true := by
      refine h.isDirectory_of_prefix hdirectory ?_
      rw [← hend]
      exact hinside here (part :: parts) hup
    have hthere : d.isDirectory next = true := by
      refine h.isDirectory_of_prefix hdirectory ?_
      rw [← foldl_follow_of_walk hrest]
      exact hinside next parts hup'
    have hstep' : d.step here part = .ok next :=
      step_eq_ok_iff.2 ⟨hhere, hnext, hor.imp_right fun hor => ⟨hor.1, isSome_of_isDirectory hthere⟩⟩
    exact walk_cons_eq_ok_iff.2 ⟨next, hstep', ih hup' hrest⟩

/-- Where something stands in a tree, a path that never goes up leads, if it leads there at all. -/
theorem IsTree.leads (h : d.IsTree) {p : Path} {name : String} (hname : Path.IsPlain name) (hup : ".." ∉ p.parts)
    (hsome : (d.find? (p.home ++ [name])).isSome) (hleads : d'.Leads p name) : d.Leads p name := by
  have hdirectory : d.isDirectory p.home = true := h p.home name hsome
  refine ⟨hleads.refusal, ?_, hdirectory, hleads.fits⟩
  exact h.walk (fun hmem => hup (Path.mem_parts_join hname hmem)) hleads.walk hdirectory

end ScriptBench.Disk
