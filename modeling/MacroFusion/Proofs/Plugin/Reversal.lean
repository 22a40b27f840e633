import Mathlib.Data.List.Basic
import MacroFusion.Proofs.Plugin.Depot

/-!
# Reversal: a load is all or nothing up to its last question, and unloading undoes it

A load goes through steps that look, one that enters the catalog, and one that puts the plugin up.  All that
can fail before that comes before the first change, or is that change and fails without making it.  But the
plugin is asked for its name and its version when it is up already, and a load that fails then leaves the
plugin on the shelf and its catalog in the registry.

* `PutUp`             one more plugin, and at most one more catalog;
* `load_error_cases`  a load that fails has changed nothing, or put its plugin up;
* `load_changes_iff`  when the latter is so;
* `Standing`          what holds of every workshop: the default catalog has its name in the registry, and
                      the numbers that come next are new;
* `Arises.standing`   whatever is done to shelf and registry keeps it;
* `Standing.unload_gains`   a plugin that is put up and unloaded leaves shelf and registry as they were;
* `loading_atomic`    all of this for every load.
-/

namespace MacroFusion

theorem Registry.register_gains {r r' : Registry} {e : Edition} (h : r.register e false = .ok r') :
    r' = r ∨ (e.catalog.name ∉ r.entries.keys
      ∧ r'.entries = r.entries ++ [(e.catalog.name, e)]) := by
  rcases register_cases h with ⟨rfl, hfalse | hn⟩ | ⟨rfl, -⟩
  · cases hfalse
  · exact Or.inr ⟨hn, Dictionary.put_of_not_mem hn e⟩
  · exact Or.inl rfl

namespace Workshop

/-! ## What a load leaves behind -/

/-- A plugin was put at the end of the shelf, and the registry has gained the catalog that it offers, at its
end and under a name that was free, or nothing. -/
structure PutUp (w w' : Workshop) (p : Plugin) (e : Edition) : Prop where
  shelf_eq : w'.shelf = { w.shelf with plugins := w.shelf.plugins ++ [p] }
  catalogName?_eq : p.catalogName? = some e.catalog.name
  registry_gains : w'.registry = w.registry
    ∨ (e.catalog.name ∉ w.registry.entries.keys
      ∧ w'.registry.entries = w.registry.entries ++ [(e.catalog.name, e)])

section
variable {w w' : Workshop} {fs : FileSystem} {path : String} {cls : PluginClass} {e : Edition}

theorem Gains.catalogName?_eq (h : w.Gains fs path cls e w') :
    (Plugin.mk w.next cls).catalogName? = some e.catalog.name := by
  rcases PluginClass.edition_ok h.edition_eq w.next with ⟨rfl, hname⟩ | ⟨-, hname⟩
  · exact hname
  · exact hname

theorem Gains.putUp (h : w.Gains fs path cls e w') : w.PutUp w' ⟨w.next, cls⟩ e := by
  have hname := h.catalogName?_eq
  obtain ⟨registry, hr, rfl⟩ := h.registered
  exact ⟨rfl, hname, Registry.register_gains hr⟩

theorem Gains.ne (h : w.Gains fs path cls e w') : w' ≠ w := by
  obtain ⟨registry, -, rfl⟩ := h.registered
  intro heq
  have hlength := congrArg (·.shelf.plugins.length) heq
  simp [grown] at hlength

theorem load_error_cases {f : Fault} (h : w.load fs path = (.error f, w')) :
    w' = w ∨ ∃ cls e, w.Gains fs path cls e w' ∧ cls.label = .error f := by
  rcases w.load_cases fs path with ⟨g, hl, -⟩ | ⟨cls, e, w₁, hg, hl⟩
  · exact Or.inl (Prod.mk.inj (h.symm.trans hl)).2
  · obtain ⟨hresult, rfl⟩ := Prod.mk.inj (h.symm.trans hl)
    refine Or.inr ⟨cls, e, hg, ?_⟩
    cases hlabel : cls.label with
    | error g =>
      rw [hlabel] at hresult
      rw [Except.error.inj hresult]
    | ok label =>
      rw [hlabel] at hresult
      cases hresult

theorem load_ok {loaded : Loaded} (h : w.load fs path = (.ok loaded, w')) :
    loaded.plugin = ⟨w.next, loaded.plugin.cls⟩
    ∧ w.Gains fs path loaded.plugin.cls loaded.edition w'
    ∧ loaded.plugin.cls.label = .ok loaded.label := by
  rcases w.load_cases fs path with ⟨g, hl, -⟩ | ⟨cls, e, w₁, hg, hl⟩
  · exact absurd (Prod.mk.inj (h.symm.trans hl)).1 (by simp)
  · obtain ⟨hresult, rfl⟩ := Prod.mk.inj (h.symm.trans hl)
    cases hlabel : cls.label with
    | error g =>
      rw [hlabel] at hresult
      cases hresult
    | ok label =>
      rw [hlabel] at hresult
      obtain rfl := Except.ok.inj hresult
      exact ⟨rfl, hg, hlabel⟩

/-- **When a load fails and leaves something behind**: its catalog could be built and registered, and then the
plugin did not tell what it is called. -/
theorem load_changes_iff : (∃ f w', w.load fs path = (.error f, w') ∧ w' ≠ w)
    ↔ ∃ cls, fs.pluginClass path = .ok cls ∧ w.takes cls = true ∧ cls.tells = false := by
  constructor
  · rintro ⟨f, w', hl, hne⟩
    obtain ⟨cls, e, hg, hlabel⟩ := (load_error_cases hl).resolve_left hne
    refine ⟨cls, hg.pluginClass, hg.takes, ?_⟩
    rw [PluginClass.tells, hlabel]
    rfl
  · rintro ⟨cls, hc, ht, htells⟩
    rcases w.load_cases fs path with ⟨g, -, hg | ⟨cls', hc', ht', -⟩⟩ | ⟨cls', e, w', hg, hl⟩
    · exact absurd (hc.symm.trans hg) (by simp)
    · obtain rfl := Except.ok.inj (hc.symm.trans hc')
      exact absurd (ht.symm.trans ht') (by decide)
    · obtain rfl := Except.ok.inj (hc.symm.trans hg.pluginClass)
      cases hlabel : cls.label with
      | ok label =>
        rw [PluginClass.tells, hlabel] at htells
        cases htells
      | error f =>
        rw [hlabel] at hl
        exact ⟨f, w', hl, hg.ne⟩

end

/-! ## Workshops that there can be -/

/-- the name of the default catalog is registered, and the numbers that come next are new -/
structure Standing (w : Workshop) : Prop where
  default_mem : defaultCatalog ∈ w.registry.entries.keys
  serial_lt : ∀ p ∈ w.shelf.plugins, p.serial < w.next
  edition_le : ∀ entry ∈ w.registry.entries, entry.2.serial ≤ w.next

/-- what a new shelf over the fresh registry can come to: plugins are loaded and unloaded, others call the
registry and hand it catalogs that there are, and others use up numbers -/
inductive Arises : Workshop → Prop where
  | start (directory : String) (next : Nat) : Arises ⟨{ directory }, .fresh, next⟩
  | load {w : Workshop} (h : Arises w) (fs : FileSystem) (path : String) :
    Arises (w.load fs path).2
  | unload {w : Workshop} (h : Arises w) (plugin : Plugin) : Arises (w.unload plugin).2.2
  | call {w : Workshop} (h : Arises w) (call : Registry.Call)
    (hc : ∀ e replacing, call = .register e replacing → e.serial ≤ w.next) :
    Arises { w with registry := w.registry.perform call }
  | elsewhere {w : Workshop} (h : Arises w) (given : Nat) : Arises { w with next := w.next + given }

namespace Standing

variable {w : Workshop}

theorem later (h : w.Standing) {next : Nat} (hle : w.next ≤ next) : Standing { w with next } where
  default_mem := h.default_mem
  serial_lt := fun p hp => Nat.lt_of_lt_of_le (h.serial_lt p hp) hle
  edition_le := fun entry he => Nat.le_trans (h.edition_le entry he) hle

theorem withPlugins (h : w.Standing) {plugins : List Plugin}
    (hp : ∀ p ∈ plugins, p.serial < w.next) :
    Standing { w with shelf := { w.shelf with plugins } } where
  default_mem := h.default_mem
  serial_lt := hp
  edition_le := h.edition_le

theorem perform (h : w.Standing) (call : Registry.Call)
    (hc : ∀ e replacing, call = .register e replacing → e.serial ≤ w.next) :
    Standing { w with registry := w.registry.perform call } where
  default_mem := Registry.default_mem_perform h.default_mem call
  serial_lt := h.serial_lt
  edition_le := by
    intro entry he
    change entry ∈ (w.registry.perform call).entries at he
    rcases w.registry.perform_cases call with hr | ⟨e, replacing, rfl, hr, _⟩ | ⟨name, _, _, hr⟩
    · rw [hr] at he
      exact h.edition_le entry he
    · rw [hr] at he
      rcases Dictionary.mem_put he with rfl | he
      · exact hc e replacing rfl
      · exact h.edition_le entry he
    · rw [hr] at he
      exact h.edition_le entry (List.mem_filter.mp he).1

theorem gains {w' : Workshop} {fs : FileSystem} {path : String} {cls : PluginClass} {e : Edition}
    (h : w.Standing) (hg : w.Gains fs path cls e w') : w'.Standing := by
  have hnumber : e.serial ≤ w.next + 2 := by
    rcases PluginClass.edition_ok hg.edition_eq w.next with ⟨rfl, -⟩ | ⟨hs, -⟩
    · exact Nat.zero_le _
    · omega
  obtain ⟨registry, hr, rfl⟩ := hg.registered
  have hperform : w.registry.perform (.register e false) = registry := by
    rw [Registry.perform, hr]
  have hentered := (h.later (Nat.le_add_right w.next 2)).perform (.register e false) (by
    rintro _ _ ⟨⟩
    exact hnumber)
  rw [hperform] at hentered
  refine hentered.withPlugins fun q hq => ?_
  rcases List.mem_append.mp hq with hq | hq
  · exact Nat.lt_of_lt_of_le (h.serial_lt q hq) (Nat.le_add_right w.next 2)
  · rw [List.mem_singleton.mp hq]
    exact Nat.lt_add_of_pos_right (by decide)

theorem unload (h : w.Standing) (plugin : Plugin) : (w.unload plugin).2.2.Standing := by
  have hless : ∀ p ∈ w.shelf.plugins.eraseP (·.serial = plugin.serial), p.serial < w.next :=
    fun p hp => h.serial_lt p (List.eraseP_subset hp)
  unfold Workshop.unload
  split
  · exact h
  · cases plugin.cls.offer.edition plugin.cls.name w.next with
    | error f => exact h.withPlugins hless
    | ok e =>
      have hremoved := (h.withPlugins hless).perform (.unregister e.catalog.name) (by rintro _ _ ⟨⟩)
      exact hremoved.later (Nat.le_succ w.next)

end Standing

theorem Arises.standing {w : Workshop} (h : w.Arises) : w.Standing := by
  induction h with
  | start directory next =>
    refine ⟨List.mem_cons_self, fun p hp => absurd hp List.not_mem_nil, fun entry he => ?_⟩
    rw [List.mem_singleton.mp he]
    exact Nat.zero_le next
  | @load w _ fs path ih =>
    rcases w.load_cases fs path with ⟨f, hl, -⟩ | ⟨cls, e, w', hg, hl⟩
    · rwa [hl]
    · rw [hl]
      exact ih.gains hg
  | unload _ plugin ih => exact ih.unload plugin
  | call _ call hc ih => exact ih.perform call hc
  | elsewhere _ given ih => exact ih.later (Nat.le_add_right _ given)

end Workshop

/-! ## There and back -/

/-- What was registered is unregistered; a catalog that was there already must be the default one. -/
theorem Registry.unregister_register {r r' : Registry} {e : Edition}
    (hd : defaultCatalog ∈ r.entries.keys) (h : r.register e false = .ok r')
    (hknown : ∀ known, r.find? e.catalog.name = some known → known.serial = e.serial →
      e.catalog.name = defaultCatalog) :
    (r'.unregister e.catalog.name).2 = r := by
  unfold unregister
  rcases register_cases h with ⟨rfl, hfalse | hn⟩ | ⟨rfl, -, known, hk, hs⟩
  · cases hfalse
  · have hne : e.catalog.name ≠ defaultCatalog := fun heq => hn (heq ▸ hd)
    rw [if_neg hne, Dictionary.remove_put_of_not_mem hn]
  · rw [if_pos (hknown known hk hs)]

namespace Workshop

theorem eraseP_concat {plugins : List Plugin} {p : Plugin} (h : ∀ q ∈ plugins, q.serial < p.serial) :
    (plugins ++ [p]).eraseP (·.serial = p.serial) = plugins := by
  have hne : ∀ q ∈ plugins, ¬ decide (q.serial = p.serial) = true := by
    intro q hq
    simpa using Nat.ne_of_lt (h q hq)
  rw [List.eraseP_append_right _ hne, List.eraseP_cons_of_pos (by simp), List.append_nil]

/-- **Unloading undoes loading**, and it succeeds if the plugin tells its name. -/
theorem Standing.unload_gains {w w' : Workshop} {fs : FileSystem} {path : String} {cls : PluginClass}
    {e : Edition} (h : w.Standing) (hg : w.Gains fs path cls e w') :
    (w'.unload ⟨w.next, cls⟩).1 = cls.name.map (fun _ => true)
      ∧ (w'.unload ⟨w.next, cls⟩).2.2.shelf = w.shelf
      ∧ (w'.unload ⟨w.next, cls⟩).2.2.registry = w.registry := by
  have hname := hg.catalogName?_eq
  obtain ⟨registry, hr, rfl⟩ := hg.registered
  have hback : (registry.unregister e.catalog.name).2 = w.registry := by
    refine Registry.unregister_register h.default_mem hr fun known hk hs => ?_
    rcases PluginClass.edition_ok hg.edition_eq w.next with ⟨rfl, -⟩ | ⟨hnew, -⟩
    · rfl
    · -- a new catalog has a number that no known one has
      have hle : known.serial ≤ w.next := h.edition_le _ (Dictionary.mem_of_lookup hk)
      omega
  have hmem : Plugin.mk w.next cls ∈ (w.grown cls registry).shelf.plugins :=
    List.mem_append_right _ (List.mem_singleton.mpr rfl)
  obtain ⟨hresult, hstate⟩ := unload_eq_of_mem hmem hname
  rw [hresult, hstate]
  exact ⟨rfl, congrArg (Shelf.mk w.shelf.directory) (eraseP_concat h.serial_lt), hback⟩

theorem name_of_label {cls : PluginClass} {label : String} (h : cls.label = .ok label) :
    ∃ name, cls.name = .ok name := by
  unfold PluginClass.label at h
  cases hn : cls.name with
  | error f =>
    rw [hn] at h
    cases h
  | ok name => exact ⟨name, rfl⟩

/-- **Loading is all or nothing as long as the plugin tells what it is called, and unloading is its
inverse.**  A load that fails leaves the workshop as it was, or else has put its plugin up and fails with
what the plugin then answers; this is so exactly if its catalog could be built and registered and it does
not tell name and version.  A load that succeeds puts its plugin at the end of the shelf and adds at most
the catalog that the plugin offers, at the end of the registry and under a name that was free.  When the
plugin is then unloaded, the shelf and the registry are as they were before; this takes no more of the
workshop than that it stands, as all do that there can be. -/
theorem loading_atomic (w : Workshop) (fs : FileSystem) (path : String) :
    (∀ f w', w.load fs path = (.error f, w') → w' = w
      ∨ ∃ p e, w.PutUp w' p e ∧ fs.pluginClass path = .ok p.cls ∧ p.cls.label = .error f)
    ∧ ((∃ f w', w.load fs path = (.error f, w') ∧ w' ≠ w)
      ↔ ∃ cls, fs.pluginClass path = .ok cls ∧ w.takes cls = true ∧ cls.tells = false)
    ∧ (∀ loaded w', w.load fs path = (.ok loaded, w') →
      w.PutUp w' loaded.plugin loaded.edition
      ∧ (w.Standing → (w'.unload loaded.plugin).1 = .ok true
        ∧ (w'.unload loaded.plugin).2.2.shelf = w.shelf
        ∧ (w'.unload loaded.plugin).2.2.registry = w.registry))
    ∧ (w.Arises → w.Standing) := by
  refine ⟨fun f w' hl => ?_, load_changes_iff, fun loaded w' hl => ?_, Arises.standing⟩
  · rcases load_error_cases hl with hw | ⟨cls, e, hg, hlabel⟩
    · exact Or.inl hw
    · exact Or.inr ⟨_, e, hg.putUp, hg.pluginClass, hlabel⟩
  · obtain ⟨hplugin, hg, hlabel⟩ := load_ok hl
    obtain ⟨name, hname⟩ := name_of_label hlabel
    rw [hplugin]
    refine ⟨hg.putUp, fun h => ?_⟩
    obtain ⟨hresult, hshelf, hregistry⟩ := h.unload_gains hg
    rw [hresult, hname]
    exact ⟨rfl, hshelf, hregistry⟩

/-- a plugin with a catalog that fails to tell its version, and one that offers the built-in catalog -/
def lateFiles : FileSystem :=
  { root := .directory [
      ("late.py", .file { content := .code (.classes [
        { className := "Late", name := .ok "Late", offer := .catalog .neoverseV2
          version := .error (.pluginRaised ⟨"ValueError", "boom"⟩) }]) }),
      ("own.py", .file { content := .code (.classes [
        { className := "Own", name := .ok "Own", offer := .builtIn }]) })]
    workingDirectory := [] }

/-- the first of them stays when its load has failed, and the second one comes and goes -/
theorem loading_atomic_lateFiles :
    let w : Workshop := ⟨{ directory := "." }, .fresh, 1⟩
    let late := w.load lateFiles "late.py"
    (∃ f p e, late.1 = .error f ∧ w.PutUp late.2 p e ∧ late.2 ≠ w)
    ∧ late.2.Arises
    ∧ ∃ loaded w', late.2.load lateFiles "own.py" = (.ok loaded, w')
      ∧ (w'.unload loaded.plugin).1 = .ok true
      ∧ (w'.unload loaded.plugin).2.2.shelf = late.2.shelf
      ∧ (w'.unload loaded.plugin).2.2.registry = late.2.registry := by
  intro w late
  have harises : late.2.Arises := .load (.start "." 1) lateFiles "late.py"
  refine ⟨?_, harises, ?_⟩
  · have hfails : late.1.isOk = false := by decide +kernel
    have hstays : late.2.shelf.plugins.length ≠ w.shelf.plugins.length := by decide +kernel
    have hne : late.2 ≠ w := fun heq => hstays (by rw [heq])
    cases hl : late.1 with
    | ok loaded =>
      rw [hl] at hfails
      cases hfails
    | error f =>
      obtain ⟨p, e, hput, -⟩ :=
        ((loading_atomic w lateFiles "late.py").1 f late.2 (Prod.ext hl rfl)).resolve_left hne
      exact ⟨f, p, e, rfl, hput, hne⟩
  · have hloads : (late.2.load lateFiles "own.py").1.isOk = true := by decide +kernel
    rcases hl : late.2.load lateFiles "own.py" with ⟨result, w'⟩
    rw [hl] at hloads
    cases result with
    | error f => cases hloads
    | ok loaded =>
      obtain ⟨-, -, hload, hstands⟩ := loading_atomic late.2 lateFiles "own.py"
      exact ⟨loaded, w', rfl, (hload loaded w' hl).2 (hstands harises)⟩

end Workshop

end MacroFusion
