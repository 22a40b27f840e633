import Mathlib.Data.List.Basic
import MacroFusion.Proofs.Plugin.Loading

/-!
# The stock: loaded plugins and their registry

All shelves put their catalogs into one registry.  The registry knows catalogs by name and the shelves
know plugins by their serial numbers, and a plugin that is unloaded has to say again what its catalog is
called.  That the two stay in step is one invariant.  It speaks of the plugins that are loaded anywhere
as one list, whose order does not matter.

* `Stock.Sound`          what holds of the loaded plugins and the registry;
* `Stock.Sound.load`     one plugin more;
* `Stock.Sound.unload`   one plugin less;
* `Stock.Sound.registry_eq_fresh`   no plugin at all;
* `Workshop.Sound`       the same of one shelf among others, which is kept by all that a shelf is
                         asked to do: `Sound.attempt`, `Sound.loadAll`, `Sound.unload`.
-/

namespace MacroFusion

/-! ## The names of catalogs -/

/-- the name of the catalog that an instance offers -/
def Plugin.catalogName? (p : Plugin) : Option String :=
  match p.cls.offer with
  | .builtIn => some defaultCatalog
  | .catalog c => some c.name
  | .nothing | .fails _ => none

/-- A catalog that was built is the built-in one, or a new one with the name that is offered. -/
theorem PluginClass.edition_ok {c : PluginClass} {serial : Nat} {e : Edition}
    (h : c.edition serial = .ok e) (n : Nat) :
    (e = .builtIn ∧ (Plugin.mk n c).catalogName? = some defaultCatalog)
    ∨ (e.serial = serial ∧ (Plugin.mk n c).catalogName? = some e.catalog.name) := by
  unfold edition at h
  unfold Plugin.catalogName?
  cases hc : c.constructorFailure with
  | some f =>
    rw [hc] at h
    cases h
  | none =>
    rw [hc] at h
    cases ho : c.offer with
    | nothing =>
      rw [ho, Offer.edition] at h
      cases hn : c.name with
      | error f =>
        rw [hn] at h
        cases h
      | ok name =>
        rw [hn] at h
        cases h
    | builtIn =>
      rw [ho] at h
      exact Or.inl ⟨(Except.ok.inj h).symm, rfl⟩
    | catalog k =>
      rw [ho] at h
      obtain rfl : Edition.mk serial k = e := Except.ok.inj h
      exact Or.inr ⟨rfl, rfl⟩
    | fails f =>
      rw [ho] at h
      cases h

/-- A plugin that offers a catalog builds one of the same name whenever it is asked. -/
theorem Plugin.edition_of_catalogName? {p : Plugin} {name : String} (h : p.catalogName? = some name)
    (asked : Except Fault String) (serial : Nat) :
    ∃ e, p.cls.offer.edition asked serial = .ok e ∧ e.catalog.name = name := by
  unfold catalogName? at h
  cases ho : p.cls.offer with
  | nothing =>
    rw [ho] at h
    cases h
  | builtIn =>
    rw [ho] at h
    exact ⟨.builtIn, rfl, Option.some.inj h⟩
  | catalog c =>
    rw [ho] at h
    exact ⟨⟨serial, c⟩, rfl, Option.some.inj h⟩
  | fails f =>
    rw [ho] at h
    cases h

/-! ## The loaded plugins and the registry -/

/-- the registry is in step with the loaded plugins, and what comes next is new -/
structure Stock.Sound (loaded : List Plugin) (registry : Registry) (next : Nat) : Prop where
  keys_nodup : registry.entries.keys.Nodup
  mem_keys_iff : ∀ name, name ∈ registry.entries.keys ↔
    name = defaultCatalog ∨ ∃ p ∈ loaded, p.catalogName? = some name
  offers : ∀ p ∈ loaded, ∃ name, p.catalogName? = some name
  /-- only the default catalog is offered twice -/
  apart : loaded.Pairwise fun p q =>
    p.catalogName? = q.catalogName? → p.catalogName? = some defaultCatalog
  serials : loaded.Pairwise fun p q => p.serial ≠ q.serial
  serial_lt : ∀ p ∈ loaded, p.serial < next
  edition_le : ∀ entry ∈ registry.entries, entry.2.serial ≤ next
  find_default : registry.find? defaultCatalog = some .builtIn

namespace Stock.Sound

variable {loaded : List Plugin} {registry : Registry} {next : Nat}

theorem fresh (next : Nat) : Sound [] Registry.fresh next where
  keys_nodup := List.pairwise_singleton _ _
  mem_keys_iff := by
    intro name
    show name ∈ [defaultCatalog] ↔ _
    simp
  offers := by simp
  apart := .nil
  serials := .nil
  serial_lt := by simp
  edition_le := by
    intro entry h
    rw [List.mem_singleton.mp h]
    exact Nat.zero_le next
  find_default := by
    show List.lookup defaultCatalog [(defaultCatalog, Edition.builtIn)] = _
    rw [List.lookup_cons, beq_self_eq_true]

theorem perm {loaded' : List Plugin} (h : Sound loaded registry next) (hp : loaded.Perm loaded') :
    Sound loaded' registry next where
  keys_nodup := h.keys_nodup
  mem_keys_iff := by
    intro name
    rw [h.mem_keys_iff]
    simp only [hp.mem_iff]
  offers := fun p hm => h.offers p (hp.mem_iff.mpr hm)
  apart := (hp.pairwise_iff fun {p q} hpq e => e.trans (hpq e.symm)).mp h.apart
  serials := (hp.pairwise_iff fun {p q} hpq => hpq.symm).mp h.serials
  serial_lt := fun p hm => h.serial_lt p (hp.mem_iff.mpr hm)
  edition_le := h.edition_le
  find_default := h.find_default

/-! ### One plugin more -/

theorem default_mem (h : Sound loaded registry next) : defaultCatalog ∈ registry.entries.keys :=
  (h.mem_keys_iff _).mpr (Or.inl rfl)

/-- a plugin with the number that comes next is unlike all others -/
theorem serials_cons (h : Sound loaded registry next) (c : PluginClass) :
    (Plugin.mk next c :: loaded).Pairwise fun p q => p.serial ≠ q.serial :=
  List.pairwise_cons.mpr ⟨fun q hq => Nat.ne_of_gt (h.serial_lt q hq), h.serials⟩

theorem serial_lt_cons (h : Sound loaded registry next) (c : PluginClass) :
    ∀ p ∈ Plugin.mk next c :: loaded, p.serial < next + 2 := by
  intro p hp
  rcases List.mem_cons.mp hp with rfl | hp
  · exact Nat.lt_add_of_pos_right (by decide)
  · exact Nat.lt_of_lt_of_le (h.serial_lt p hp) (Nat.le_add_right next 2)

theorem offers_cons (h : Sound loaded registry next) {p : Plugin} {name : String}
    (hp : p.catalogName? = some name) : ∀ q ∈ p :: loaded, ∃ name, q.catalogName? = some name := by
  intro q hq
  rcases List.mem_cons.mp hq with rfl | hq
  · exact ⟨name, hp⟩
  · exact h.offers q hq

/-- the default catalog is offered once more, and the registry stays as it is -/
theorem load_builtIn (h : Sound loaded registry next) {c : PluginClass}
    (hc : (Plugin.mk next c).catalogName? = some defaultCatalog) :
    Sound (⟨next, c⟩ :: loaded) registry (next + 2) where
  keys_nodup := h.keys_nodup
  mem_keys_iff := by
    intro name
    rw [h.mem_keys_iff, List.exists_mem_cons_iff, hc, Option.some.injEq, ← or_assoc,
      eq_comm (a := defaultCatalog), or_self]
  offers := h.offers_cons hc
  apart := List.pairwise_cons.mpr ⟨fun _ _ _ => hc, h.apart⟩
  serials := h.serials_cons c
  serial_lt := h.serial_lt_cons c
  edition_le := fun entry he => Nat.le_trans (h.edition_le entry he) (Nat.le_add_right next 2)
  find_default := h.find_default

/-- a catalog under a new name is added with its plugin -/
theorem load_new (h : Sound loaded registry next) {c : PluginClass} {e : Edition}
    (hc : (Plugin.mk next c).catalogName? = some e.catalog.name) (he : e.serial = next + 1)
    (hn : e.catalog.name ∉ registry.entries.keys) :
    Sound (⟨next, c⟩ :: loaded) ⟨registry.entries.put e.catalog.name e⟩ (next + 2) where
  keys_nodup := Dictionary.nodup_keys_put h.keys_nodup _ e
  mem_keys_iff := by
    intro name
    rw [Dictionary.mem_keys_put, h.mem_keys_iff, List.exists_mem_cons_iff, hc, Option.some.injEq,
      eq_comm (a := name), or_left_comm]
  offers := h.offers_cons hc
  apart := by
    refine List.pairwise_cons.mpr ⟨?_, h.apart⟩
    intro q hq heq
    exact absurd ((h.mem_keys_iff _).mpr (Or.inr ⟨q, hq, heq.symm.trans hc⟩)) hn
  serials := h.serials_cons c
  serial_lt := h.serial_lt_cons c
  edition_le := by
    intro entry hm
    rw [Dictionary.put_of_not_mem hn] at hm
    rcases List.mem_append.mp hm with hm | hm
    · exact Nat.le_trans (h.edition_le entry hm) (Nat.le_add_right next 2)
    · rw [List.mem_singleton.mp hm]
      show e.serial ≤ next + 2
      omega
  find_default := by
    have hd : defaultCatalog ≠ e.catalog.name := fun heq => hn (heq ▸ h.default_mem)
    exact (Dictionary.lookup_put_of_ne hd e registry.entries).trans h.find_default

/-- One plugin is loaded and its catalog is registered. -/
theorem load (h : Sound loaded registry next) {c : PluginClass} {e : Edition} {registry' : Registry}
    (he : c.edition (next + 1) = .ok e) (hr : registry.register e false = .ok registry') :
    Sound (⟨next, c⟩ :: loaded) registry' (next + 2) := by
  rcases PluginClass.edition_ok he next with ⟨rfl, hc⟩ | ⟨hs, hc⟩
  · -- the built-in catalog is registered already
    rcases Registry.register_cases hr with ⟨-, hf | hn⟩ | ⟨rfl, -⟩
    · cases hf
    · exact absurd h.default_mem hn
    · exact h.load_builtIn hc
  · rcases Registry.register_cases hr with ⟨rfl, hf | hn⟩ | ⟨-, -, known, hk, heq⟩
    · cases hf
    · exact h.load_new hc hs hn
    · -- no catalog that is known has the number of a new one
      have hle : known.serial ≤ next := h.edition_le _ (Dictionary.mem_of_lookup hk)
      omega

/-! ### One plugin less -/

/-- without one plugin, and with no entry of the registry that was not there -/
theorem dropped {p : Plugin} {registry' : Registry} (h : Sound (p :: loaded) registry next)
    (hs : registry'.entries.Sublist registry.entries)
    (hm : ∀ name, name ∈ registry'.entries.keys ↔
      name = defaultCatalog ∨ ∃ q ∈ loaded, q.catalogName? = some name)
    (hd : registry'.find? defaultCatalog = some .builtIn) : Sound loaded registry' (next + 1) where
  keys_nodup := h.keys_nodup.sublist (hs.map _)
  mem_keys_iff := hm
  offers := fun q hq => h.offers q (List.mem_cons_of_mem _ hq)
  apart := (List.pairwise_cons.mp h.apart).2
  serials := (List.pairwise_cons.mp h.serials).2
  serial_lt := fun q hq => Nat.lt_succ_of_lt (h.serial_lt q (List.mem_cons_of_mem _ hq))
  edition_le := fun entry he => Nat.le_succ_of_le (h.edition_le entry (hs.subset he))
  find_default := hd

/-- One plugin is unloaded, and the catalog that it names is taken out. -/
theorem unload {p : Plugin} {name : String} (h : Sound (p :: loaded) registry next)
    (hp : p.catalogName? = some name) :
    Sound loaded (registry.unregister name).2 (next + 1) := by
  have hmem : ∀ other, other ∈ registry.entries.keys ↔ other = defaultCatalog
      ∨ name = other ∨ ∃ q ∈ loaded, q.catalogName? = some other := by
    intro other
    rw [h.mem_keys_iff, List.exists_mem_cons_iff, hp, Option.some.injEq]
  unfold Registry.unregister
  by_cases hd : name = defaultCatalog
  · rw [if_pos hd]
    refine h.dropped (List.Sublist.refl _) ?_ h.find_default
    intro other
    rw [hmem, hd, ← or_assoc, eq_comm (b := other), or_self]
  · rw [if_neg hd]
    -- nobody else offers this name, for it is not the default one
    have hother : ∀ q ∈ loaded, q.catalogName? ≠ some name := by
      intro q hq heq
      have hdef := (List.pairwise_cons.mp h.apart).1 q hq (hp.trans heq.symm)
      exact hd (Option.some.inj (hp.symm.trans hdef))
    refine h.dropped List.filter_sublist ?_ ?_
    · intro other
      show other ∈ (Dictionary.remove name registry.entries).keys ↔ _
      rw [Dictionary.mem_keys_remove, hmem]
      constructor
      · rintro ⟨hor, hne⟩
        exact hor.imp_right fun ho => ho.resolve_left fun e => hne e.symm
      · rintro (rfl | ⟨q, hq, hn⟩)
        · exact ⟨Or.inl rfl, fun e => hd e.symm⟩
        · exact ⟨Or.inr (Or.inr ⟨q, hq, hn⟩), fun e => hother q hq (e ▸ hn)⟩
    · exact (Dictionary.lookup_remove_of_ne (fun e => hd e.symm) registry.entries).trans
        h.find_default

/-- With nothing loaded the registry is the fresh one. -/
theorem registry_eq_fresh (h : Sound [] registry next) : registry = .fresh := by
  have hall : ∀ name ∈ registry.entries.keys, name = defaultCatalog := by
    intro name hm
    simpa using (h.mem_keys_iff name).mp hm
  obtain ⟨entries⟩ := registry
  cases entries with
  | nil => exact absurd h.default_mem List.not_mem_nil
  | cons entry rest =>
    obtain ⟨key, e⟩ := entry
    obtain rfl : key = defaultCatalog := hall key List.mem_cons_self
    have hrest : rest = [] := by
      refine List.eq_nil_iff_forall_not_mem.mpr fun other ho => ?_
      have hkey : other.1 ∈ Dictionary.keys rest := List.mem_map_of_mem ho
      have heq := hall other.1 (List.mem_cons_of_mem _ hkey)
      exact (List.nodup_cons.mp h.keys_nodup).1 (heq ▸ hkey)
    have hfind : List.lookup defaultCatalog ((defaultCatalog, e) :: rest) = some .builtIn :=
      h.find_default
    rw [List.lookup_cons, beq_self_eq_true] at hfind
    rw [hrest, Option.some.inj hfind]
    rfl

end Stock.Sound

/-! ## What a shelf is asked to do -/

namespace Workshop

/-- the registry is in step with the plugins of this shelf and those on other ones -/
def Sound (w : Workshop) (others : List Plugin) : Prop :=
  Stock.Sound (w.shelf.plugins ++ others) w.registry w.next

variable {w : Workshop} {others : List Plugin}

/-- A load that puts its plugin up registers the catalog as well, whether or not it then fails. -/
theorem Sound.gains (h : w.Sound others) {fs : FileSystem} {path : String} {cls : PluginClass}
    {edition : Edition} {w' : Workshop} (hg : w.Gains fs path cls edition w') : w'.Sound others := by
  obtain ⟨registry, hr, rfl⟩ := hg.registered
  have hperm : (⟨w.next, cls⟩ :: (w.shelf.plugins ++ others)).Perm
      ((w.shelf.plugins ++ [⟨w.next, cls⟩]) ++ others) := by
    rw [List.append_assoc]
    exact List.perm_middle.symm
  exact (Stock.Sound.load h hg.edition_eq hr).perm hperm

theorem Sound.attempt (h : w.Sound others) (fs : FileSystem) (path : String) :
    (w.attempt fs path).Sound others := by
  unfold Workshop.attempt
  rcases w.load_cases fs path with ⟨f, hl, -⟩ | ⟨cls, edition, w', hg, hl⟩
  · rw [hl]
    exact h
  · rw [hl]
    exact h.gains hg

theorem Sound.attempts (h : w.Sound others) (fs : FileSystem) (paths : List String) :
    (paths.foldl (Workshop.attempt fs) w).Sound others := by
  -- what one file keeps, all files keep
  induction paths generalizing w with
  | nil => exact h
  | cons path rest ih => exact ih (h.attempt fs path)

theorem Sound.loadAll (h : w.Sound others) (fs : FileSystem) (directory : Option String) :
    (w.loadAll fs directory).2.2.Sound others := by
  show (loadEach fs (Shelf.discover fs (w.shelf.searched directory)) w).2.2.Sound others
  rcases (loadEach_cases fs (Shelf.discover fs (w.shelf.searched directory)) w).2 with
    ⟨-, hw, -⟩ | ⟨before, path, after, f, -, -, -, hw, -⟩
  · rw [hw]
    exact h.attempts fs _
  · rw [hw]
    exact h.attempts fs _

/-! ### Unloading -/

theorem unload_of_not_mem {plugin : Plugin}
    (h : ∀ q ∈ w.shelf.plugins, q.serial ≠ plugin.serial) :
    w.unload plugin = (.ok false, [], w) := by
  have hany : w.shelf.plugins.any (·.serial = plugin.serial) = false := by
    simpa using h
  unfold unload
  rw [hany]
  rfl

/-- A plugin that is on the shelf and offers a catalog is taken off it, whether or not it tells its name. -/
theorem unload_eq_of_mem {plugin : Plugin} {name : String} (hm : plugin ∈ w.shelf.plugins)
    (hp : plugin.catalogName? = some name) :
    (w.unload plugin).1 = plugin.cls.name.map (fun _ => true)
    ∧ (w.unload plugin).2.2 =
      { shelf := { w.shelf with plugins := w.shelf.plugins.eraseP (·.serial = plugin.serial) }
        registry := (w.registry.unregister name).2, next := w.next + 1 } := by
  have hany : w.shelf.plugins.any (·.serial = plugin.serial) = true :=
    List.any_eq_true.mpr ⟨plugin, hm, decide_eq_true rfl⟩
  obtain ⟨e, he, rfl⟩ := Plugin.edition_of_catalogName? hp plugin.cls.name w.next
  unfold unload
  rw [hany, he]
  refine ⟨?_, rfl⟩
  cases plugin.cls.name <;> rfl

/-- what is left on a shelf when one of its plugins is taken off -/
theorem exists_eraseP_serial {plugins : List Plugin} {plugin : Plugin} (hm : plugin ∈ plugins)
    (hg : ∀ q ∈ plugins, q.serial = plugin.serial → q = plugin) :
    ∃ before after, plugins = before ++ plugin :: after
      ∧ plugins.eraseP (·.serial = plugin.serial) = before ++ after := by
  obtain ⟨q, before, after, -, hq, heq, herase⟩ :=
    List.exists_of_eraseP (p := fun q : Plugin => decide (q.serial = plugin.serial)) hm
      (decide_eq_true rfl)
  have hqm : q ∈ plugins := heq ▸ List.mem_append_right _ List.mem_cons_self
  obtain rfl := hg q hqm (of_decide_eq_true hq)
  exact ⟨before, after, heq, herase⟩

/-- A plugin that is not on the shelf changes nothing; one that is goes with its catalog.  The number of
the plugin must not be that of another one. -/
theorem Sound.unload_cases (h : w.Sound others) {plugin : Plugin}
    (hg : ∀ q ∈ w.shelf.plugins, q.serial = plugin.serial → q = plugin) :
    (plugin ∉ w.shelf.plugins ∧ (w.unload plugin).2.2 = w)
    ∨ ∃ name before after, plugin.catalogName? = some name
      ∧ w.shelf.plugins = before ++ plugin :: after
      ∧ (w.unload plugin).2.2 =
        { shelf := { w.shelf with plugins := before ++ after }
          registry := (w.registry.unregister name).2, next := w.next + 1 } := by
  by_cases hm : plugin ∈ w.shelf.plugins
  · obtain ⟨name, hp⟩ := h.offers plugin (List.mem_append_left _ hm)
    obtain ⟨before, after, heq, herase⟩ := exists_eraseP_serial hm hg
    refine Or.inr ⟨name, before, after, hp, heq, ?_⟩
    rw [(unload_eq_of_mem hm hp).2, herase]
  · rw [unload_of_not_mem fun q hq heq => hm (hg q hq heq ▸ hq)]
    exact Or.inl ⟨hm, rfl⟩

theorem perm_of_eq_append {plugins before after : List Plugin} {plugin : Plugin}
    (h : plugins = before ++ plugin :: after) (others : List Plugin) :
    (plugins ++ others).Perm (plugin :: ((before ++ after) ++ others)) := by
  rw [h, List.append_assoc, List.cons_append, List.append_assoc]
  exact List.perm_middle

theorem Sound.unload (h : w.Sound others) {plugin : Plugin}
    (hg : ∀ q ∈ w.shelf.plugins, q.serial = plugin.serial → q = plugin) :
    (w.unload plugin).2.2.Sound others := by
  rcases h.unload_cases hg with ⟨-, hw⟩ | ⟨name, before, after, hp, heq, hw⟩
  · rw [hw]
    exact h
  · rw [hw]
    exact (Stock.Sound.perm h (perm_of_eq_append heq others)).unload hp

/-- What is on the shelf after a plugin was unloaded was there before, and it is not that plugin. -/
theorem Sound.mem_of_unload (h : w.Sound others) {plugin q : Plugin}
    (hg : ∀ q ∈ w.shelf.plugins, q.serial = plugin.serial → q = plugin)
    (hq : q ∈ (w.unload plugin).2.2.shelf.plugins) : q ∈ w.shelf.plugins ∧ q ≠ plugin := by
  rcases h.unload_cases hg with ⟨hm, hw⟩ | ⟨name, before, after, -, heq, hw⟩
  · rw [hw] at hq
    exact ⟨hq, fun e => hm (e ▸ hq)⟩
  · rw [hw] at hq
    have hserials := (Stock.Sound.perm h (perm_of_eq_append heq others)).serials
    have hne := (List.pairwise_cons.mp hserials).1 q (List.mem_append_left _ hq)
    refine ⟨?_, fun e => hne (e ▸ rfl)⟩
    rw [heq, List.perm_middle.mem_iff]
    exact List.mem_cons_of_mem _ hq

end Workshop

end MacroFusion
