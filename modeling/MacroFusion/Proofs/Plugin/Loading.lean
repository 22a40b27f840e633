import Mathlib.Data.List.TakeWhile
import MacroFusion.Plugin.Shelf
import MacroFusion.Proofs.Registry.History

/-!
# Loading plugins, one and all

For a plugin to be loaded its class is found, its catalog is built, the catalog is registered, and the
plugin is put up and asked what it is called.  A failure to find the class or to register the catalog is
the plugin's own and can be skipped, unless the import ends the program.  The other two may end in a fault
of another kind.  Whether the second one does is a matter of the file alone: what is on the shelf or in the
registry has no part in it.  The last one is only come to if the catalog was registered.

* `run_bind`, `run_instantiate`, `run_catalogOf`, `run_enter`   what each step does to the workshop;
* `load_eq`           what they come to;
* `Gains`, `load_cases`   a load that changes something has put up its plugin and registered its catalog;
* `FileSystem.stop?`, `Workshop.stop?`   the fault of a file that nobody skips, and that of its turn;
* `stop?_eq`          a load ends in that fault, or succeeds, or fails with one that is skipped;
* `attempt`, `Passes` the workshop after a load, and files none of which ends all when its turn comes;
* `loadEach_cases`    files are attempted in order, as far as the first one that ends all;
* `loadAll_outcome`   the same of a directory, with the plugins that are counted.
-/

namespace MacroFusion

open Workshop (isPluginFault blamePlugin)

/-! ## The steps of a load -/

namespace Workshop

/-- a step goes on from the workshop that the one before it has left -/
theorem run_bind {α β : Type} (x : Step α) (f : α → Step β) (w : Workshop) :
    (x >>= f).run w = match x.run w with
      | (.ok a, w') => (f a).run w'
      | (.error e, w') => (.error e, w') := by
  have hbind : (x >>= f).run w = ExceptT.bindCont f (x.run w).1 (x.run w).2 := rfl
  rw [hbind]
  rcases x.run w with ⟨result, w'⟩
  cases result <;> rfl

theorem run_lift {α : Type} (x : Except Fault α) (w : Workshop) :
    (liftM x : Step α).run w = (x, w) := rfl

theorem run_instantiate (cls : PluginClass) (w : Workshop) :
    (instantiate cls).run w = (match cls.constructorFailure with
      | some f => .error f
      | none => .ok ⟨w.next, cls⟩, w) := by
  unfold instantiate
  cases cls.constructorFailure <;> rfl

theorem run_catalogOf (plugin : Plugin) (w : Workshop) :
    (catalogOf plugin).run w
      = (plugin.cls.offer.edition plugin.cls.name (plugin.serial + 1), w) := rfl

theorem run_enter (edition : Edition) (w : Workshop) :
    (enter edition).run w = match w.registry.register edition false with
      | .error f => (.error (blamePlugin f), w)
      | .ok registry => (.ok (), { w with registry }) := by
  have henter : (enter edition).run w
      = ExceptT.bindCont (fun registry => (set { w with registry } : Step Unit))
        ((w.registry.register edition false).mapError blamePlugin) w := rfl
  rw [henter]
  cases w.registry.register edition false <;> rfl

/-- the workshop with one more plugin, and with a registry that knows its catalog -/
def grown (w : Workshop) (cls : PluginClass) (registry : Registry) : Workshop :=
  { shelf := { w.shelf with plugins := w.shelf.plugins ++ [⟨w.next, cls⟩] }, registry
    next := w.next + 2 }

/-- the plugin is up, and what is left is to ask for its label -/
theorem run_closing (cls : PluginClass) (edition : Edition) (w : Workshop) (registry : Registry) :
    (do putUp ⟨w.next, cls⟩
        let label ← cls.label
        return { plugin := ⟨w.next, cls⟩, edition, label : Loaded } : Step Loaded).run
      { w with registry }
      = (cls.label.map fun label => ⟨⟨w.next, cls⟩, edition, label⟩, w.grown cls registry) := by
  have hputUp : (putUp ⟨w.next, cls⟩).run { w with registry } = (.ok (), w.grown cls registry) := rfl
  rw [run_bind, hputUp]
  dsimp only
  rw [run_bind, run_lift]
  cases cls.label <;> rfl

end Workshop

/-! ## One plugin -/

/-- the catalog that a class leads to -/
def PluginClass.edition (c : PluginClass) (serial : Nat) : Except Fault Edition :=
  match c.constructorFailure with
  | some f => .error f
  | none => c.offer.edition c.name serial

theorem Workshop.load_eq (w : Workshop) (fs : FileSystem) (path : String) :
    w.load fs path = match fs.pluginClass path with
      | .error f => (.error f, w)
      | .ok cls =>
        match cls.edition (w.next + 1) with
        | .error f => (.error f, w)
        | .ok edition =>
          match w.registry.register edition false with
          | .error f => (.error (blamePlugin f), w)
          | .ok registry =>
            (cls.label.map fun label => ⟨⟨w.next, cls⟩, edition, label⟩, w.grown cls registry) := by
  unfold load loading
  rw [run_bind, run_lift]
  cases fs.pluginClass path with
  | error f => rfl
  | ok cls =>
    dsimp only
    rw [run_bind, run_instantiate, PluginClass.edition]
    cases cls.constructorFailure with
    | some f => rfl
    | none =>
      dsimp only
      rw [run_bind, run_catalogOf]
      dsimp only
      cases cls.offer.edition cls.name (w.next + 1) with
      | error f => rfl
      | ok edition =>
        dsimp only
        rw [run_bind, run_enter]
        cases w.registry.register edition false with
        | error f => rfl
        | ok registry => exact run_closing cls edition w registry

/-- A plugin was put up and its catalog registered. -/
structure Workshop.Gains (w : Workshop) (fs : FileSystem) (path : String) (cls : PluginClass)
    (edition : Edition) (w' : Workshop) : Prop where
  pluginClass : fs.pluginClass path = .ok cls
  edition_eq : cls.edition (w.next + 1) = .ok edition
  registered : ∃ registry, w.registry.register edition false = .ok registry ∧ w' = w.grown cls registry

/-! ## Faults that are skipped and faults that are not -/

/-- a fault that ends the loading of a directory -/
def unskipped (f : Fault) : Option Fault := if isPluginFault f = none then some f else none

/-- the fault of a result that ends the loading of a directory -/
def ending? {α : Type} : Except Fault α → Option Fault
  | .error f => unskipped f
  | .ok _ => none

/-- what the constructor or the catalog of a class fails with, if that is not skipped; who offers no
catalog is asked for a name -/
def PluginClass.stop? (c : PluginClass) : Option Fault :=
  match c.constructorFailure, c.offer, c.name with
  | some f, _, _ => unskipped f
  | none, .fails f, _ => unskipped f
  | none, .nothing, .error f => unskipped f
  | none, _, _ => none

/-- the fault with which a file ends the loading of a directory before its plugin is put up -/
def FileSystem.stop? (fs : FileSystem) (path : String) : Option Fault :=
  match fs.pluginClass path with
  | .ok c => c.stop?
  | .error f => unskipped f

/-- whether the catalog of a class can be built and registered -/
def Workshop.takes (w : Workshop) (c : PluginClass) : Bool :=
  match c.edition (w.next + 1) with
  | .ok edition => (w.registry.register edition false).isOk
  | .error _ => false

/-- the fault with which a file ends the loading of a directory when its turn comes: that of the file, or
else, once its plugin is put up, that of the name or the version -/
def Workshop.stop? (w : Workshop) (fs : FileSystem) (path : String) : Option Fault :=
  match fs.pluginClass path with
  | .error f => unskipped f
  | .ok c => if w.takes c then ending? c.label else c.stop?

theorem PluginClass.stop?_eq (c : PluginClass) (serial : Nat) : c.stop? = ending? (c.edition serial) := by
  unfold stop? edition Offer.edition
  cases c.constructorFailure with
  | some f => rfl
  | none =>
    cases c.offer with
    | nothing => cases c.name <;> rfl
    | builtIn => rfl
    | catalog k => rfl
    | fails f => rfl

theorem Workshop.Gains.takes {w w' : Workshop} {fs : FileSystem} {path : String} {cls : PluginClass}
    {edition : Edition} (h : w.Gains fs path cls edition w') : w.takes cls = true := by
  obtain ⟨registry, hr, -⟩ := h.registered
  simp only [Workshop.takes, h.edition_eq, hr]
  rfl

/-- **What a load comes to**: it fails before anything has changed, or the plugin is put up, and the load
ends as the question for its label does. -/
theorem Workshop.load_cases (w : Workshop) (fs : FileSystem) (path : String) :
    (∃ f, w.load fs path = (.error f, w)
      ∧ (fs.pluginClass path = .error f
        ∨ ∃ cls, fs.pluginClass path = .ok cls ∧ w.takes cls = false ∧ cls.stop? = unskipped f))
    ∨ ∃ cls edition w', w.Gains fs path cls edition w'
      ∧ w.load fs path = (cls.label.map fun label => ⟨⟨w.next, cls⟩, edition, label⟩, w') := by
  rw [load_eq]
  cases hc : fs.pluginClass path with
  | error f => exact Or.inl ⟨f, rfl, Or.inl rfl⟩
  | ok cls =>
    have hstop := cls.stop?_eq (w.next + 1)
    dsimp only
    cases he : cls.edition (w.next + 1) with
    | error f =>
      rw [he] at hstop
      exact Or.inl ⟨f, rfl, Or.inr ⟨cls, rfl, by rw [takes, he], hstop⟩⟩
    | ok edition =>
      rw [he] at hstop
      dsimp only
      cases hr : w.registry.register edition false with
      | error f =>
        -- a conflict is skipped
        obtain rfl := Registry.register_error hr
        exact Or.inl ⟨_, rfl, Or.inr ⟨cls, rfl, by simp only [takes, he, hr]; rfl, hstop⟩⟩
      | ok registry => exact Or.inr ⟨cls, edition, _, ⟨hc, he, registry, hr, rfl⟩, rfl⟩

/-- **A load ends in the fault of its turn**, or it has none that is not skipped. -/
theorem Workshop.stop?_eq (w : Workshop) (fs : FileSystem) (path : String) :
    w.stop? fs path = ending? (w.load fs path).1 := by
  unfold Workshop.stop?
  rcases w.load_cases fs path with ⟨f, hl, hc | ⟨cls, hc, ht, hs⟩⟩ | ⟨cls, e, w', hg, hl⟩
  · rw [hl, hc]
    rfl
  · simp only [hl, hc, ht, hs, Bool.false_eq_true, if_false]
    rfl
  · simp only [hl, hg.pluginClass, hg.takes, if_true]
    cases cls.label <;> rfl

/-- what a class is called can be told -/
def PluginClass.tells (c : PluginClass) : Bool := c.label.isOk

/-- the plugin of a file, if there is one, tells what it is called -/
def FileSystem.Telling (fs : FileSystem) (path : String) : Prop :=
  ∀ c, fs.pluginClass path = .ok c → c.tells = true

/-- Where names and versions are told, what ends all is a matter of the files alone. -/
theorem Workshop.stop?_of_telling {fs : FileSystem} {path : String} (h : fs.Telling path)
    (w : Workshop) : w.stop? fs path = fs.stop? path := by
  unfold Workshop.stop? FileSystem.stop?
  cases hc : fs.pluginClass path with
  | error f => rfl
  | ok c =>
    dsimp only
    split
    · next ht =>
      -- a catalog that is taken was built
      have hstop : c.stop? = none := by
        rw [c.stop?_eq (w.next + 1)]
        unfold takes at ht
        cases he : c.edition (w.next + 1) with
        | error f => simp [he] at ht
        | ok e => rfl
      have htells := h c hc
      rw [hstop]
      unfold PluginClass.tells at htells
      cases hl : c.label with
      | error f => simp [hl, Except.isOk, Except.toBool] at htells
      | ok label => rfl
    · rfl

/-! ## Many plugins -/

namespace Workshop

/-- the workshop after a load, whether or not it fails -/
def attempt (fs : FileSystem) (w : Workshop) (path : String) : Workshop := (w.load fs path).2

/-- no file of a list ends all when its turn comes -/
def Passes (w : Workshop) (fs : FileSystem) (paths : List String) : Prop :=
  ∀ before path after, paths = before ++ path :: after →
    (before.foldl (attempt fs) w).stop? fs path = none

theorem passes_nil (w : Workshop) (fs : FileSystem) : w.Passes fs [] := by
  intro before path after h
  simp at h

theorem passes_cons {w : Workshop} {fs : FileSystem} {path : String} {rest : List String} :
    w.Passes fs (path :: rest) ↔ w.stop? fs path = none ∧ (w.attempt fs path).Passes fs rest := by
  constructor
  · intro h
    refine ⟨h [] path rest rfl, fun before next after heq => ?_⟩
    exact h (path :: before) next after (by rw [heq]; rfl)
  · rintro ⟨hs, hrest⟩ before next after heq
    cases before with
    | nil =>
      obtain ⟨rfl, -⟩ := List.cons.inj heq
      exact hs
    | cons first before =>
      obtain ⟨rfl, hr⟩ := List.cons.inj heq
      exact hrest before next after hr

/-- where names and versions are told, each file can be looked at by itself -/
theorem passes_iff_of_telling {w : Workshop} {fs : FileSystem} {paths : List String}
    (h : ∀ path ∈ paths, fs.Telling path) :
    w.Passes fs paths ↔ ∀ path ∈ paths, fs.stop? path = none := by
  induction paths generalizing w with
  | nil => simp [passes_nil]
  | cons path rest ih =>
    rw [passes_cons, ih fun p hp => h p (List.mem_cons_of_mem _ hp),
      stop?_of_telling (h path List.mem_cons_self), List.forall_mem_cons]

/-- a load adds to the end of the shelf what the file has, and this tells what it is called just if the
load succeeds -/
theorem attempt_adds (w : Workshop) (fs : FileSystem) (path : String) :
    ∃ added, (w.attempt fs path).shelf.plugins = w.shelf.plugins ++ added
      ∧ (∀ p ∈ added, fs.pluginClass path = .ok p.cls)
      ∧ added.countP (·.cls.tells) = if (w.load fs path).1.isOk then 1 else 0 := by
  unfold attempt
  rcases w.load_cases fs path with ⟨f, hl, -⟩ | ⟨cls, e, w', hg, hl⟩
  · rw [hl]
    exact ⟨[], (List.append_nil _).symm, fun p hp => absurd hp List.not_mem_nil, rfl⟩
  · obtain ⟨registry, -, rfl⟩ := hg.registered
    rw [hl]
    refine ⟨[⟨w.next, cls⟩], rfl, fun p hp => ?_, ?_⟩
    · rw [List.mem_singleton.mp hp]
      exact hg.pluginClass
    simp only [List.countP_singleton, PluginClass.tells]
    cases cls.label <;> rfl

section
variable {w : Workshop} {fs : FileSystem} {path : String}

/-- nothing after a file that ends all is looked at -/
theorem loadEach_of_stop {f : Fault} (h : w.stop? fs path = some f) (rest : List String) :
    (loadEach fs (path :: rest) w).1 = .error f
    ∧ (loadEach fs (path :: rest) w).2.2 = w.attempt fs path := by
  rw [stop?_eq] at h
  cases hl : (w.load fs path).1 with
  | ok loaded =>
    rw [hl] at h
    cases h
  | error g =>
    rw [hl, ending?, unskipped] at h
    split at h
    · next hg =>
      obtain rfl := Option.some.inj h
      simp only [loadEach, goOn, hl, hg, attempt, and_self]
    · cases h

/-- after any other file the rest goes on from the workshop that it leaves, and it counts if it was
loaded -/
theorem loadEach_of_none (h : w.stop? fs path = none) (rest : List String) :
    (loadEach fs (path :: rest) w).1 = (loadEach fs rest (w.attempt fs path)).1.map
      ((if (w.load fs path).1.isOk then 1 else 0) + ·)
    ∧ (loadEach fs (path :: rest) w).2.2 = (loadEach fs rest (w.attempt fs path)).2.2 := by
  rw [stop?_eq] at h
  unfold attempt
  cases hl : (w.load fs path).1 with
  | ok loaded =>
    simp only [loadEach, goOn, hl, Nat.add_comm _ 1]
    exact ⟨rfl, trivial⟩
  | error g =>
    rw [hl, ending?, unskipped] at h
    cases hd : isPluginFault g with
    | none => simp [hd] at h
    | some d =>
      simp only [loadEach, goOn, hl, hd]
      refine ⟨?_, trivial⟩
      cases (loadEach fs rest (w.load fs path).2).1 with
      | error f => rfl
      | ok n => exact congrArg Except.ok (Nat.zero_add n).symm

end

/-- **Files are attempted in order**: all of them, or up to the first one that ends it.  What they add to the
shelf stands at its end, and a count is the number of those of them that tell what they are called. -/
theorem loadEach_cases (fs : FileSystem) (paths : List String) (w : Workshop) :
    (∃ added, (loadEach fs paths w).2.2.shelf.plugins = w.shelf.plugins ++ added
      ∧ (∀ p ∈ added, ∃ path ∈ paths, fs.pluginClass path = .ok p.cls)
      ∧ ∀ count, (loadEach fs paths w).1 = .ok count → count = added.countP (·.cls.tells))
    ∧ ((w.Passes fs paths ∧ (loadEach fs paths w).2.2 = paths.foldl (attempt fs) w
        ∧ ∃ count, (loadEach fs paths w).1 = .ok count)
      ∨ ∃ before path after f, paths = before ++ path :: after ∧ w.Passes fs before
        ∧ (before.foldl (attempt fs) w).stop? fs path = some f
        ∧ (loadEach fs paths w).2.2 = (before ++ [path]).foldl (attempt fs) w
        ∧ (loadEach fs paths w).1 = .error f) := by
  induction paths generalizing w with
  | nil =>
    refine ⟨⟨[], (List.append_nil _).symm, by simp, ?_⟩, Or.inl ⟨passes_nil w fs, rfl, 0, rfl⟩⟩
    rintro count ⟨⟩
    rfl
  | cons path rest ih =>
    obtain ⟨own, hown, hfile, hcount⟩ := w.attempt_adds fs path
    cases hs : w.stop? fs path with
    | some f =>
      obtain ⟨h1, h2⟩ := loadEach_of_stop hs rest
      rw [h1, h2]
      refine ⟨⟨own, hown, fun p hp => ⟨path, List.mem_cons_self, hfile p hp⟩, ?_⟩,
        Or.inr ⟨[], path, rest, f, rfl, passes_nil w fs, hs, rfl, rfl⟩⟩
      rintro count ⟨⟩
    | none =>
      obtain ⟨h1, h2⟩ := loadEach_of_none hs rest
      obtain ⟨⟨added, hadded, hfiles, hn⟩, hcases⟩ := ih (w.attempt fs path)
      rw [h1, h2]
      refine ⟨⟨own ++ added, ?_, ?_, ?_⟩, ?_⟩
      · rw [hadded, hown, List.append_assoc]
      · intro p hp
        rcases List.mem_append.mp hp with hp | hp
        · exact ⟨path, List.mem_cons_self, hfile p hp⟩
        · obtain ⟨later, hl, hc⟩ := hfiles p hp
          exact ⟨later, List.mem_cons_of_mem _ hl, hc⟩
      · intro count hc
        cases hr : (loadEach fs rest (w.attempt fs path)).1 with
        | error f =>
          rw [hr] at hc
          cases hc
        | ok n =>
          rw [hr] at hc
          rw [List.countP_append, hcount, ← hn n hr]
          exact (Except.ok.inj hc).symm
      · rcases hcases with ⟨hp, hw, n, hr⟩ | ⟨before, next, after, f, heq, hp, hf, hw, hr⟩
        · rw [hr]
          exact Or.inl ⟨passes_cons.mpr ⟨hs, hp⟩, hw, _, rfl⟩
        · rw [hr]
          refine Or.inr ⟨path :: before, next, after, f, ?_, passes_cons.mpr ⟨hs, hp⟩, hf, hw, rfl⟩
          rw [heq]
          rfl

-- the file behind one whose constructor fails is not looked at
example :
    let failing : PluginClass :=
      { className := "A", name := .ok "A", offer := .nothing
        constructorFailure := some (.pluginRaised ⟨"ValueError", "boom"⟩) }
    let files : FileSystem :=
      { root := .directory [("a.py", .file { content := .code (.classes [failing]) }),
          ("b.py", .file { content := .code .shipped })]
        workingDirectory := [] }
    let outcome := loadEach files ["a.py", "b.py"] ⟨{ directory := "." }, .fresh, 1⟩
    outcome.1 = .error (.pluginRaised ⟨"ValueError", "boom"⟩)
      ∧ outcome.2.2.shelf.plugins.length = 0 := by
  decide +kernel

/-- Loading a directory attempts its files in order, all of them or up to the first one that ends it with a
fault that is not skipped, and there is a count exactly if there is no such file.  The count is the number
of those plugins that were put on the shelf and tell what they are called.  If all plugins of the directory
do, this is the number of those that were put there, and whether a file ends it is a matter of that file
alone. -/
theorem loadAll_outcome (w : Workshop) (fs : FileSystem) (directory : Option String) :
    let paths := Shelf.discover fs (w.shelf.searched directory)
    let result := (w.loadAll fs directory).1
    let final := (w.loadAll fs directory).2.2
    ((w.Passes fs paths ∧ final = paths.foldl (attempt fs) w ∧ ∃ count, result = .ok count)
      ∨ ∃ before path after f, paths = before ++ path :: after ∧ w.Passes fs before
        ∧ (before.foldl (attempt fs) w).stop? fs path = some f
        ∧ final = (before ++ [path]).foldl (attempt fs) w ∧ result = .error f)
    ∧ (∃ added, final.shelf.plugins = w.shelf.plugins ++ added
      ∧ ∀ count, result = .ok count → count = added.countP (·.cls.tells)
        ∧ ((∀ path ∈ paths, fs.Telling path) → count = added.length))
    ∧ ((∃ count, result = .ok count) ↔ w.Passes fs paths)
    ∧ ((∀ path ∈ paths, fs.Telling path) →
      (w.Passes fs paths ↔ ∀ path ∈ paths, fs.stop? path = none)) := by
  intro paths result final
  obtain ⟨⟨added, hadded, hfiles, hcount⟩, hcases⟩ := loadEach_cases fs paths w
  refine ⟨hcases, ⟨added, hadded, fun count hc => ⟨hcount count hc, fun ht => ?_⟩⟩, ?_,
    fun ht => passes_iff_of_telling ht⟩
  · rw [hcount count hc, List.countP_eq_length]
    intro p hp
    obtain ⟨path, hpath, hcls⟩ := hfiles p hp
    exact ht path hpath p.cls hcls
  · rcases hcases with ⟨hp, -, hok⟩ | ⟨before, path, after, f, heq, -, hs, -, he⟩
    · exact ⟨fun _ => hp, fun _ => hok⟩
    · constructor
      · rintro ⟨count, hc⟩
        exact absurd (hc.symm.trans he) (by simp)
      · intro hp
        rw [hp before path after heq] at hs
        cases hs

end Workshop

end MacroFusion
