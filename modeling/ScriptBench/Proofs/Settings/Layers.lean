import ScriptBench.Proofs.Data.Sorted
import ScriptBench.Proofs.Settings.File

/-! The layers of the settings. A name has the last value in the first layer that gives it one. -/
namespace ScriptBench.Settings

/-! Last values -/

section

variable {α : Type} {gives : α → String → Prop} {things : List α} {value : String}

/-- The last of some things that gives a value at all gives this one. -/
def Last (gives : α → String → Prop) (things : List α) (value : String) : Prop :=
  ∃ before thing after, things = before ++ thing :: after ∧ gives thing value ∧ ∀ other ∈ after, ∀ v, ¬gives other v

def Silent (gives : α → String → Prop) (things : List α) : Prop := ∀ thing ∈ things, ∀ v, ¬gives thing v

theorem last_or_silent (gives : α → String → Prop) (things : List α) :
    (∃ value, Last gives things value) ∨ Silent gives things := by
  induction things with
  | nil => exact Or.inr nofun
  | cons thing things ih =>
    rcases ih with ⟨value, before, thing', after, rfl, hgives, hafter⟩ | hsilent
    · exact Or.inl ⟨value, thing :: before, thing', after, rfl, hgives, hafter⟩
    · by_cases h : ∃ value, gives thing value
      · obtain ⟨value, hgives⟩ := h
        exact Or.inl ⟨value, [], thing, things, rfl, hgives, hsilent⟩
      · refine Or.inr (List.forall_mem_cons.2 ⟨fun v hv => h ⟨v, hv⟩, hsilent⟩)

end

/-- A pair of a name and a value. -/
def Pairs (name : String) (e : String × String) (value : String) : Prop := e = (name, value)

variable {name value : String} {layer : List (String × String)}

theorem Last.filter {p : String × String → Bool} (h : Last (Pairs name) layer value) (hp : p (name, value) = true) :
    Last (Pairs name) (layer.filter p) value := by
  obtain ⟨before, _, after, rfl, rfl, hafter⟩ := h
  refine ⟨before.filter p, _, after.filter p, ?_, rfl, fun e he => hafter e (List.mem_filter.1 he).1⟩
  rw [List.filter_append, List.filter_cons, if_pos hp]

/-- Where names differ every value is a last one. -/
theorem last_of_mem (hnames : (layer.map (·.1)).Nodup) (h : (name, value) ∈ layer) :
    Last (Pairs name) layer value := by
  obtain ⟨before, after, rfl⟩ := List.append_of_mem h
  refine ⟨before, _, after, rfl, rfl, ?_⟩
  rintro _ hmem v rfl
  rw [List.map_append, List.map_cons, List.nodup_append, List.nodup_cons] at hnames
  exact hnames.2.1.1 (List.mem_map_of_mem (f := (·.1)) hmem)

/-! Layers over settings -/

theorem overlay_append (s : Settings) (layer layer' : List (String × String)) :
    s.overlay (layer ++ layer') = (s.overlay layer).overlay layer' := List.foldl_append

theorem get?_overlay_of_silent (h : Silent (Pairs name) layer) (s : Settings) :
    (s.overlay layer).get? name = s.get? name := by
  induction layer generalizing s with
  | nil => rfl
  | cons e layer ih =>
    obtain ⟨he, hlayer⟩ := List.forall_mem_cons.1 h
    have hne : name ≠ e.1 := fun hname => he e.2 (Prod.ext hname.symm rfl)
    exact (ih hlayer (s.set e.1 e.2)).trans (Dictionary.get?_insert_of_ne hne s.values e.2)

theorem get?_overlay_of_last (h : Last (Pairs name) layer value) (s : Settings) :
    (s.overlay layer).get? name = some value := by
  obtain ⟨before, _, after, rfl, rfl, hafter⟩ := h
  rw [overlay_append]
  exact (get?_overlay_of_silent hafter _).trans (Dictionary.get?_insert_self _ name value)

theorem get?_overlay_congr {s s' : Settings} (h : s.get? name = s'.get? name) (layer : List (String × String)) :
    (s.overlay layer).get? name = (s'.overlay layer).get? name := by
  rcases last_or_silent (Pairs name) layer with ⟨value, hlast⟩ | hsilent
  · rw [get?_overlay_of_last hlast, get?_overlay_of_last hlast]
  · rw [get?_overlay_of_silent hsilent, get?_overlay_of_silent hsilent, h]

/-! The layers of the settings -/

variable {texts : List String}

theorem last_filterMap (h : Last (Assigns · name) texts value) :
    Last (Pairs name) (texts.filterMap assignment?) value := by
  obtain ⟨before, text, after, rfl, hassigns, hafter⟩ := h
  refine ⟨before.filterMap assignment?, _, after.filterMap assignment?, ?_, rfl, ?_⟩
  · rw [List.filterMap_append, List.filterMap_cons, assignment?_eq_some_iff.2 hassigns]
  · rintro _ hmem v rfl
    obtain ⟨other, hother, hsome⟩ := List.mem_filterMap.1 hmem
    exact hafter other hother v (assignment?_eq_some_iff.1 hsome)

theorem silent_filterMap (h : Silent (Assigns · name) texts) : Silent (Pairs name) (texts.filterMap assignment?) := by
  rintro _ hmem v rfl
  obtain ⟨text, htext, hsome⟩ := List.mem_filterMap.1 hmem
  exact h text htext v (assignment?_eq_some_iff.1 hsome)

theorem silent_filter_recognised {environment : List (String × String)}
    (h : name ∈ recognised → Silent (Pairs name) environment) :
    Silent (Pairs name) (environment.filter fun e => recognised.contains e.1) := by
  rintro _ hmem v rfl
  obtain ⟨he, hname⟩ := List.mem_filter.1 hmem
  exact h (List.contains_iff_mem.1 hname) _ he v rfl

/-- What the layers give for a name: the last value that was set by hand, else the value of a recognised variable, else
what the last line assigns, else the default. -/
inductive Layered (p : Places) (texts : List String) (environment sets : List (String × String)) (name : String) :
    Option String → Prop
  | set {v : String} (h : Last (Pairs name) sets v) : Layered p texts environment sets name (some v)
  | environment {v : String} (hsets : Silent (Pairs name) sets) (hname : name ∈ recognised)
      (h : Last (Pairs name) environment v) : Layered p texts environment sets name (some v)
  | line {v : String} (hsets : Silent (Pairs name) sets)
      (henvironment : name ∈ recognised → Silent (Pairs name) environment) (h : Last (Assigns · name) texts v) :
      Layered p texts environment sets name (some v)
  | default {v : String} (hsets : Silent (Pairs name) sets)
      (henvironment : name ∈ recognised → Silent (Pairs name) environment) (hlines : Silent (Assigns · name) texts)
      (h : (name, v) ∈ defaults p) : Layered p texts environment sets name (some v)
  | none (hsets : Silent (Pairs name) sets) (henvironment : name ∈ recognised → Silent (Pairs name) environment)
      (hlines : Silent (Assigns · name) texts) (h : ∀ v, (name, v) ∉ defaults p) :
      Layered p texts environment sets name none

theorem nodup_defaults (p : Places) : ((defaults p).map (·.1)).Nodup := by
  have hnames : (defaults p).map (·.1) = ["PYRUNNER_RUNTIME_DIR", "PYRUNNER_TEST_STORE_PATH", "PYRUNNER_TIMEOUT_MS",
      "PYRUNNER_STARTUP_TIMEOUT_MS", "PYRUNNER_MAX_TRACE_STEPS", "PYRUNNER_PYTHON", "PYRUNNER_LIBRARY_MODULE",
      "PYRUNNER_OWNER", "PYRUNNER_INTERRUPTS"] := rfl
  rw [hnames]
  decide

section

variable {p : Places} {file : Option (List UInt8)} {environment sets : List (String × String)} {r : Option String}

theorem exists_layered (p : Places) (texts : List String) (environment sets : List (String × String))
    (name : String) : ∃ r, Layered p texts environment sets name r := by
  rcases last_or_silent (Pairs name) sets with ⟨v, hlast⟩ | hsets
  · exact ⟨some v, .set hlast⟩
  by_cases henvironment : name ∈ recognised → Silent (Pairs name) environment
  · rcases last_or_silent (Assigns · name) texts with ⟨v, hlast⟩ | hlines
    · exact ⟨some v, .line hsets henvironment hlast⟩
    · by_cases hdefault : ∃ v, (name, v) ∈ defaults p
      · obtain ⟨v, hmem⟩ := hdefault
        exact ⟨some v, .default hsets henvironment hlines hmem⟩
      · exact ⟨none, .none hsets henvironment hlines fun v hmem => hdefault ⟨v, hmem⟩⟩
  · obtain ⟨hname, hnot⟩ := Classical.not_imp.1 henvironment
    obtain ⟨v, hlast⟩ := (last_or_silent (Pairs name) environment).resolve_right hnot
    exact ⟨some v, .environment hsets hname hlast⟩

theorem get?_of_layered (hreadable : Readable (file.getD []) texts) (h : Layered p texts environment sets name r) :
    ((load p file environment).overlay sets).get? name = r := by
  unfold load ofFile
  rw [filterMap_textLines hreadable]
  cases h with
  | set h => exact get?_overlay_of_last h _
  | @environment v hsets hname h =>
    have hfilter : Last (Pairs name) (environment.filter fun e => recognised.contains e.1) v :=
      h.filter (List.contains_iff_mem.2 hname)
    rw [get?_overlay_of_silent hsets, get?_overlay_of_last hfilter]
  | line hsets henvironment h =>
    rw [get?_overlay_of_silent hsets, get?_overlay_of_silent (silent_filter_recognised henvironment)]
    exact get?_overlay_of_last (last_filterMap h) _
  | default hsets henvironment hlines h =>
    rw [get?_overlay_of_silent hsets, get?_overlay_of_silent (silent_filter_recognised henvironment),
      get?_overlay_of_silent (silent_filterMap hlines)]
    exact get?_overlay_of_last (last_of_mem (nodup_defaults p) h) _
  | none hsets henvironment hlines h =>
    have hdefaults : Silent (Pairs name) (defaults p) := by
      rintro _ hmem v rfl
      exact h v hmem
    rw [get?_overlay_of_silent hsets, get?_overlay_of_silent (silent_filter_recognised henvironment),
      get?_overlay_of_silent (silent_filterMap hlines), get?_overlay_of_silent hdefaults]
    rfl

theorem get?_eq_iff_layered (hreadable : Readable (file.getD []) texts) :
    ((load p file environment).overlay sets).get? name = r ↔ Layered p texts environment sets name r := by
  refine ⟨?_, get?_of_layered hreadable⟩
  rintro rfl
  obtain ⟨r, hlayered⟩ := exists_layered p texts environment sets name
  rwa [get?_of_layered hreadable hlayered]

end

/-! Variables that are not recognised -/

/-- The variables that say where the directories of the defaults are, if there is a home directory. -/
def homeNames : List String := ["HOME", "XDG_CACHE_HOME", "XDG_DATA_HOME"]

theorem lookup_filter_of_mem {names : List String} (h : name ∈ names) (environment : List (String × String)) :
    (environment.filter fun e => names.contains e.1).lookup name = environment.lookup name := by
  induction environment with
  | nil => rfl
  | cons e environment ih =>
    rw [List.filter_cons, List.lookup_cons]
    by_cases he : name = e.1
    · rw [if_pos (List.contains_iff_mem.2 (he ▸ h)), List.lookup_cons, he, beq_self_eq_true]
    · rw [beq_eq_false_iff_ne.2 he]
      split
      · rw [List.lookup_cons, beq_eq_false_iff_ne.2 he]
        exact ih
      · exact ih

theorem lookup_of_filter_eq {names : List String} {environment environment' : List (String × String)}
    (h : (environment'.filter fun e => names.contains e.1) = environment.filter fun e => names.contains e.1)
    (hname : name ∈ names) : environment'.lookup name = environment.lookup name := by
  rw [← lookup_filter_of_mem hname environment', h, lookup_filter_of_mem hname]

theorem filter_recognised_of_filter_eq {names : List String} {environment environment' : List (String × String)}
    (h : (environment'.filter fun e => (recognised ++ names).contains e.1) =
      environment.filter fun e => (recognised ++ names).contains e.1) :
    (environment'.filter fun e => recognised.contains e.1) = environment.filter fun e => recognised.contains e.1 := by
  have hfilter : ∀ entries : List (String × String), (entries.filter fun e => recognised.contains e.1) =
      (entries.filter fun e => (recognised ++ names).contains e.1).filter fun e => recognised.contains e.1 := by
    intro entries
    rw [List.filter_filter]
    refine List.filter_congr fun e _ => ?_
    cases hcontains : recognised.contains e.1 with
    | false => rfl
    | true =>
      have hmem : e.1 ∈ recognised ++ names := List.mem_append_left _ (List.contains_iff_mem.1 hcontains)
      rw [List.contains_iff_mem.2 hmem]
      rfl
  rw [hfilter environment', h, ← hfilter]

/-- Where there is a home directory, three variables say where caches and data are. -/
theorem ofEnvironment_congr_of_home {environment environment' : List (String × String)} {userHome : Option String}
    (hhome : homeDirectory? environment userHome ≠ none)
    (hlookup : ∀ name ∈ homeNames, environment'.lookup name = environment.lookup name) :
    (Places.ofEnvironment environment' userHome).cache = (Places.ofEnvironment environment userHome).cache ∧
      (Places.ofEnvironment environment' userHome).data = (Places.ofEnvironment environment userHome).data := by
  obtain ⟨home, hsome⟩ := Option.ne_none_iff_exists'.1 hhome
  have hsame : homeDirectory? environment' userHome = some home := by
    rw [← hsome, homeDirectory?, homeDirectory?, hlookup "HOME" (by decide)]
  unfold Places.ofEnvironment
  rw [hsome, hsame]
  dsimp only
  rw [hlookup "XDG_CACHE_HOME" (by decide), hlookup "XDG_DATA_HOME" (by decide)]
  exact ⟨rfl, rfl⟩

/-- Where there is none, they are where temporary files are. -/
theorem ofEnvironment_congr_of_no_home {environment environment' : List (String × String)}
    {userHome userHome' : Option String} (hnone : homeDirectory? environment userHome = none)
    (hnone' : homeDirectory? environment' userHome' = none)
    (hlookup : environment'.lookup "TMPDIR" = environment.lookup "TMPDIR") :
    (Places.ofEnvironment environment' userHome').cache = (Places.ofEnvironment environment userHome).cache ∧
      (Places.ofEnvironment environment' userHome').data = (Places.ofEnvironment environment userHome).data := by
  unfold Places.ofEnvironment
  rw [hnone, hnone']
  dsimp only
  rw [temporaryDirectory, temporaryDirectory, hlookup]
  exact ⟨rfl, rfl⟩

theorem ofFile_congr {p p' : Places} (hcache : p'.cache = p.cache) (hdata : p'.data = p.data)
    (file : Option (List UInt8)) : ofFile p' file = ofFile p file := by
  unfold ofFile defaults defaultDirectory defaultStore
  rw [hcache, hdata]

/-- Where directories are decides two defaults alone. -/
theorem get?_ofFile_congr (hdirectory : name ≠ "PYRUNNER_RUNTIME_DIR") (hstore : name ≠ "PYRUNNER_TEST_STORE_PATH")
    (p p' : Places) (file : Option (List UInt8)) : (ofFile p' file).get? name = (ofFile p file).get? name := by
  refine get?_overlay_congr ?_ _
  have hsplit : ∀ p : Places, defaults p =
      [("PYRUNNER_RUNTIME_DIR", defaultDirectory p), ("PYRUNNER_TEST_STORE_PATH", defaultStore p)] ++
        (defaults p').drop 2 := fun p => rfl
  have hsilent : ∀ p : Places, Silent (Pairs name)
      [("PYRUNNER_RUNTIME_DIR", defaultDirectory p), ("PYRUNNER_TEST_STORE_PATH", defaultStore p)] := by
    rintro p _ hmem v rfl
    simp only [List.mem_cons, Prod.mk.injEq, List.not_mem_nil, or_false] at hmem
    exact hmem.elim (fun h => hdirectory h.1) fun h => hstore h.1
  rw [hsplit p, hsplit p', overlay_append, overlay_append]
  refine get?_overlay_congr ?_ _
  rw [get?_overlay_of_silent (hsilent p), get?_overlay_of_silent (hsilent p')]

theorem load_congr {names : List String} {p p' : Places} {environment environment' : List (String × String)}
    (h : (environment'.filter fun e => (recognised ++ names).contains e.1) =
      environment.filter fun e => (recognised ++ names).contains e.1)
    (hplaces : p'.cache = p.cache ∧ p'.data = p.data) (file : Option (List UInt8)) :
    load p' file environment' = load p file environment := by
  unfold load
  rw [filter_recognised_of_filter_eq h, ofFile_congr hplaces.1 hplaces.2]

/-- For any bytes of the file, or none, any environment and any settings by hand: a file has its lines up to the first
that is no text, and each name has the value that the layers give. Settings depend on the environment by the recognised
variables alone, but for two defaults. Their directories lie where three more variables say, or where temporary files
are if there is no home directory. -/
theorem get?_layered (file : Option (List UInt8)) (environment : List (String × String)) (userHome : Option String) :
    (∃ texts, (∀ texts', Readable (file.getD []) texts' ↔ texts' = texts) ∧ ∀ sets name r,
      ((load (.ofEnvironment environment userHome) file environment).overlay sets).get? name = r ↔
        Layered (.ofEnvironment environment userHome) texts environment sets name r) ∧
    (homeDirectory? environment userHome ≠ none → ∀ environment',
      (environment'.filter fun e => (recognised ++ homeNames).contains e.1) =
        (environment.filter fun e => (recognised ++ homeNames).contains e.1) →
      load (.ofEnvironment environment' userHome) file environment' =
        load (.ofEnvironment environment userHome) file environment) ∧
    (homeDirectory? environment userHome = none → ∀ environment' userHome', homeDirectory? environment' userHome' = none →
      (environment'.filter fun e => (recognised ++ ["TMPDIR"]).contains e.1) =
        (environment.filter fun e => (recognised ++ ["TMPDIR"]).contains e.1) →
      load (.ofEnvironment environment' userHome') file environment' =
        load (.ofEnvironment environment userHome) file environment) ∧
    ∀ environment' userHome', (environment'.filter fun e => recognised.contains e.1) =
        (environment.filter fun e => recognised.contains e.1) →
      ∀ sets name, name ≠ "PYRUNNER_RUNTIME_DIR" → name ≠ "PYRUNNER_TEST_STORE_PATH" →
        ((load (.ofEnvironment environment' userHome') file environment').overlay sets).get? name =
          ((load (.ofEnvironment environment userHome) file environment).overlay sets).get? name := by
  refine ⟨?_, fun hhome environment' h => ?_, fun hnone environment' userHome' hnone' h => ?_,
    fun environment' userHome' h sets name hdirectory hstore => ?_⟩
  · obtain ⟨texts, hreadable⟩ := exists_readable (file.getD [])
    refine ⟨texts, fun texts' => ⟨hreadable.unique, ?_⟩, fun sets name r => get?_eq_iff_layered hreadable⟩
    rintro rfl
    exact hreadable
  · refine load_congr h (ofEnvironment_congr_of_home hhome fun name hname => ?_) file
    exact lookup_of_filter_eq h (List.mem_append_right recognised hname)
  · refine load_congr h (ofEnvironment_congr_of_no_home hnone hnone' ?_) file
    exact lookup_of_filter_eq h (List.mem_append_right recognised List.mem_cons_self)
  · refine get?_overlay_congr ?_ sets
    unfold load
    rw [h]
    exact get?_overlay_congr (get?_ofFile_congr hdirectory hstore _ _ file) _

/-- Variables that are not recognised move the default of a name: one with a home directory, and another without. -/
theorem default_moves_with_variables :
    "XDG_CACHE_HOME" ∉ recognised ∧
    (load (.ofEnvironment [("HOME", "/home/ana")] (some "/")) none [("HOME", "/home/ana")]).get?
      "PYRUNNER_RUNTIME_DIR" = some "/home/ana/.cache/pyrunner/runtime" ∧
    (load (.ofEnvironment [("HOME", "/home/ana"), ("XDG_CACHE_HOME", "/tmp")] (some "/")) none
      [("HOME", "/home/ana"), ("XDG_CACHE_HOME", "/tmp")]).get? "PYRUNNER_RUNTIME_DIR" =
        some "/tmp/pyrunner/runtime" ∧
    "TMPDIR" ∉ recognised ∧
    (load (.ofEnvironment [("HOME", "")] none) none [("HOME", "")]).get? "PYRUNNER_RUNTIME_DIR" =
      some "/tmp/pyrunner/runtime" ∧
    (load (.ofEnvironment [("HOME", ""), ("TMPDIR", "/var/tmp")] none) none
      [("HOME", ""), ("TMPDIR", "/var/tmp")]).get? "PYRUNNER_RUNTIME_DIR" =
        some "/var/tmp/pyrunner/runtime" := by
  refine ⟨by decide, ?_, ?_, by decide, ?_, ?_⟩
  · decide +kernel
  · decide +kernel
  · decide +kernel
  · decide +kernel

end ScriptBench.Settings
