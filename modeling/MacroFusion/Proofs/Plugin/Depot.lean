import Mathlib.Data.List.Pairwise
import MacroFusion.Proofs.Plugin.Stock

/-!
# Depots: any number of shelves over one registry

A depot starts with no shelf and the fresh registry.  Shelves are opened, and each can be asked to load
a file, to load a directory, or to unload a plugin; the files may be other ones at every call, and a
plugin may be handed to a shelf on which it is not.

* `Depot`, `Call`, `perform`   shelves over one registry, calls, and one call;
* `Reached`            what a depot can come to;
* `perform_sound`      every call keeps the registry in step with the loaded plugins;
* `holdings`, `unloadEach`   which plugin is on which shelf, and taking some off;
* `registry_in_step`   the registry has the default catalog and those of the loaded plugins, and when
                       all of them are unloaded it is the fresh one.
-/

namespace MacroFusion

/-- all `PluginManager`s of a process, over the one registry that they share -/
structure Depot where
  shelves : List Shelf
  registry : Registry
  /-- the serial number that comes next -/
  next : Nat

namespace Depot

/-- the plugins on all shelves -/
def loaded (d : Depot) : List Plugin := d.shelves.flatMap (·.plugins)

/-- asks one shelf to do something -/
def within (d : Depot) (k : Nat) (f : Workshop → Workshop) : Depot :=
  match d.shelves[k]? with
  | some shelf =>
    let w := f ⟨shelf, d.registry, d.next⟩
    ⟨d.shelves.set k w.shelf, w.registry, w.next⟩
  | none => d

/-- what a depot is asked to do -/
inductive Call where
  | openShelf (directory : String)
  | load (k : Nat) (fs : FileSystem) (path : String)
  | loadAll (k : Nat) (fs : FileSystem) (directory : Option String)
  | unload (k : Nat) (plugin : Plugin)

/-- the depot after a call, whether or not the call ends in a fault -/
def perform (d : Depot) : Call → Depot
  | .openShelf directory => { d with shelves := d.shelves ++ [{ directory }] }
  | .load k fs path => d.within k fun w => w.attempt fs path
  | .loadAll k fs directory => d.within k fun w => (w.loadAll fs directory).2.2
  | .unload k plugin => d.within k fun w => (w.unload plugin).2.2

/-- a serial number tells one plugin: what has the number of a loaded plugin is that plugin -/
def Genuine (d : Depot) (plugin : Plugin) : Prop :=
  ∀ q ∈ d.loaded, q.serial = plugin.serial → q = plugin

/-- what a call hands over is a plugin that there can be -/
def Call.Apt (d : Depot) : Call → Prop
  | .unload _ plugin => d.Genuine plugin
  | .openShelf _ | .load _ _ _ | .loadAll _ _ _ => True

/-- what a depot can come to -/
inductive Reached : Depot → Prop where
  | start (next : Nat) : Reached ⟨[], .fresh, next⟩
  | step {d : Depot} {call : Call} (h : Reached d) (hc : call.Apt d) : Reached (d.perform call)

/-! ## The plugins of one shelf and the others -/

/-- the plugins on all shelves but one -/
def beside (d : Depot) (k : Nat) : List Plugin := (d.shelves.eraseIdx k).flatMap (·.plugins)

theorem flatMap_set_perm {shelves : List Shelf} {k : Nat} {old : Shelf}
    (h : shelves[k]? = some old) (new : Shelf) :
    ((shelves.set k new).flatMap (·.plugins)).Perm
      (new.plugins ++ (shelves.eraseIdx k).flatMap (·.plugins)) := by
  induction shelves generalizing k with
  | nil => simp at h
  | cons shelf rest ih =>
    cases k with
    | zero =>
      rw [List.set_cons_zero, List.flatMap_cons, List.eraseIdx_cons_zero]
    | succ k =>
      rw [List.set_cons_succ, List.flatMap_cons, List.eraseIdx_cons_succ, List.flatMap_cons]
      have hrest := (ih (by simpa using h)).append_left shelf.plugins
      exact hrest.trans (List.perm_append_comm_assoc _ _ _)

section
variable {d : Depot} {k : Nat} {shelf : Shelf}

theorem within_of_some (h : d.shelves[k]? = some shelf) (f : Workshop → Workshop) :
    d.within k f = ⟨d.shelves.set k (f ⟨shelf, d.registry, d.next⟩).shelf,
      (f ⟨shelf, d.registry, d.next⟩).registry, (f ⟨shelf, d.registry, d.next⟩).next⟩ := by
  rw [within, h]

theorem within_of_none (h : d.shelves[k]? = none) (f : Workshop → Workshop) : d.within k f = d := by
  rw [within, h]

theorem loaded_perm (h : d.shelves[k]? = some shelf) :
    d.loaded.Perm (shelf.plugins ++ d.beside k) := by
  have hset := flatMap_set_perm h shelf
  obtain ⟨hk, rfl⟩ := List.getElem?_eq_some_iff.mp h
  rw [List.set_getElem_self] at hset
  exact hset

/-- What every shelf keeps, the depot keeps. -/
theorem within_sound (h : Stock.Sound d.loaded d.registry d.next) {f : Workshop → Workshop}
    (hf : ∀ shelf, d.shelves[k]? = some shelf →
      Workshop.Sound ⟨shelf, d.registry, d.next⟩ (d.beside k) →
      (f ⟨shelf, d.registry, d.next⟩).Sound (d.beside k)) :
    Stock.Sound (d.within k f).loaded (d.within k f).registry (d.within k f).next := by
  cases hk : d.shelves[k]? with
  | none =>
    rw [within_of_none hk]
    exact h
  | some shelf =>
    rw [within_of_some hk]
    exact (hf shelf hk (h.perm (loaded_perm hk))).perm (flatMap_set_perm hk _).symm

end

/-! ## What a depot can come to -/

theorem perform_sound {d : Depot} {call : Call} (h : Stock.Sound d.loaded d.registry d.next)
    (hc : call.Apt d) :
    Stock.Sound (d.perform call).loaded (d.perform call).registry (d.perform call).next := by
  cases call with
  | openShelf directory =>
    have hl : (d.perform (.openShelf directory)).loaded = d.loaded := by
      show (d.shelves ++ [_]).flatMap _ = _
      rw [List.flatMap_append, List.flatMap_singleton, List.append_nil]
      rfl
    rw [hl]
    exact h
  | load k fs path =>
    rw [perform]
    exact within_sound h fun _ _ hw => hw.attempt fs path
  | loadAll k fs directory =>
    rw [perform]
    exact within_sound h fun _ _ hw => hw.loadAll fs directory
  | unload k plugin =>
    rw [perform]
    refine within_sound h fun shelf hk hw => hw.unload fun q hq => hc q ?_
    exact (loaded_perm hk).mem_iff.mpr (List.mem_append_left _ hq)

theorem Reached.sound {d : Depot} (h : d.Reached) : Stock.Sound d.loaded d.registry d.next := by
  induction h with
  | start next => exact .fresh next
  | step _ hc ih => exact perform_sound ih hc

/-- Every plugin that is loaded is genuine. -/
theorem Reached.genuine {d : Depot} (h : d.Reached) {p : Plugin} (hp : p ∈ d.loaded) :
    d.Genuine p := by
  intro q hq heq
  by_contra hne
  have hsymm : Std.Symm fun p q : Plugin => p.serial ≠ q.serial := ⟨fun _ _ hpq => hpq.symm⟩
  exact h.sound.serials.forall hq hp hne heq

/-! ## Unloading all plugins -/

/-- the plugins with the places of their shelves -/
def holdings (d : Depot) : List (Nat × Plugin) :=
  d.shelves.zipIdx.flatMap fun place => place.1.plugins.map (place.2, ·)

/-- takes some plugins off their shelves, one after the other -/
def unloadEach (d : Depot) (held : List (Nat × Plugin)) : Depot :=
  held.foldl (fun d h => d.perform (.unload h.1 h.2)) d

theorem mem_holdings_iff {d : Depot} {k : Nat} {p : Plugin} :
    (k, p) ∈ d.holdings ↔ ∃ shelf, d.shelves[k]? = some shelf ∧ p ∈ shelf.plugins := by
  unfold holdings
  rw [List.mem_flatMap]
  constructor
  · rintro ⟨⟨shelf, j⟩, hplace, hm⟩
    obtain ⟨q, hq, heq⟩ := List.mem_map.mp hm
    obtain ⟨rfl, rfl⟩ := Prod.mk.inj heq
    exact ⟨shelf, List.mem_zipIdx_iff_getElem?.mp hplace, hq⟩
  · rintro ⟨shelf, hk, hp⟩
    exact ⟨(shelf, k), List.mem_zipIdx_iff_getElem?.mpr hk, List.mem_map_of_mem hp⟩

theorem mem_loaded_iff {d : Depot} {p : Plugin} : p ∈ d.loaded ↔ ∃ k, (k, p) ∈ d.holdings := by
  unfold loaded
  rw [List.mem_flatMap]
  constructor
  · rintro ⟨shelf, hshelf, hp⟩
    obtain ⟨k, hk⟩ := List.mem_iff_getElem?.mp hshelf
    exact ⟨k, mem_holdings_iff.mpr ⟨shelf, hk, hp⟩⟩
  · rintro ⟨k, hk⟩
    obtain ⟨shelf, hshelf, hp⟩ := mem_holdings_iff.mp hk
    exact ⟨shelf, List.mem_of_getElem? hshelf, hp⟩

/-- Unloading a plugin puts nothing anywhere, and takes this plugin off this shelf. -/
theorem Reached.holdings_unload {d : Depot} (h : d.Reached) {k : Nat} {p : Plugin}
    (hg : d.Genuine p) {held : Nat × Plugin} (hm : held ∈ (d.perform (.unload k p)).holdings) :
    held ∈ d.holdings ∧ held ≠ (k, p) := by
  obtain ⟨j, q⟩ := held
  obtain ⟨shelf', hj, hq⟩ := mem_holdings_iff.mp hm
  change (d.within k fun w => (w.unload p).2.2).shelves[j]? = some shelf' at hj
  cases hk : d.shelves[k]? with
  | none =>
    rw [within_of_none hk] at hj
    refine ⟨mem_holdings_iff.mpr ⟨shelf', hj, hq⟩, ?_⟩
    rintro heq
    rw [(Prod.mk.inj heq).1, hk] at hj
    cases hj
  | some shelf =>
    rw [within_of_some hk] at hj
    by_cases hjk : k = j
    · subst hjk
      rw [List.getElem?_set_self (List.getElem?_eq_some_iff.mp hk).1] at hj
      obtain rfl := Option.some.inj hj
      have hw : Workshop.Sound ⟨shelf, d.registry, d.next⟩ (d.beside k) :=
        h.sound.perm (loaded_perm hk)
      obtain ⟨hqs, hne⟩ := hw.mem_of_unload
        (fun q hq => hg q ((loaded_perm hk).mem_iff.mpr (List.mem_append_left _ hq))) hq
      exact ⟨mem_holdings_iff.mpr ⟨shelf, hk, hqs⟩, fun e => hne (Prod.mk.inj e).2⟩
    · rw [List.getElem?_set_ne hjk] at hj
      exact ⟨mem_holdings_iff.mpr ⟨shelf', hj, hq⟩, fun e => hjk (Prod.mk.inj e).1.symm⟩

/-- What is left of a depot when some plugins were unloaded. -/
theorem Reached.unloadEach {d : Depot} (h : d.Reached) {order : List (Nat × Plugin)}
    (hg : ∀ held ∈ order, d.Genuine held.2) :
    (d.unloadEach order).Reached
    ∧ ∀ held ∈ (d.unloadEach order).holdings, held ∈ d.holdings ∧ held ∉ order := by
  induction order generalizing d with
  | nil => exact ⟨h, fun held hm => ⟨hm, List.not_mem_nil⟩⟩
  | cons first rest ih =>
    have hfirst : d.Genuine first.2 := hg first List.mem_cons_self
    have hstep : (d.perform (.unload first.1 first.2)).Reached := h.step hfirst
    -- less is loaded, so what was genuine still is
    have hrest : ∀ held ∈ rest, (d.perform (.unload first.1 first.2)).Genuine held.2 := by
      intro held hheld q hq
      obtain ⟨k, hk⟩ := mem_loaded_iff.mp hq
      exact hg held (List.mem_cons_of_mem _ hheld) q
        (mem_loaded_iff.mpr ⟨k, (h.holdings_unload hfirst hk).1⟩)
    obtain ⟨hreached, hleft⟩ := ih hstep hrest
    refine ⟨hreached, fun held hm => ?_⟩
    obtain ⟨hmem, hnot⟩ := hleft held hm
    obtain ⟨hmem, hne⟩ := h.holdings_unload hfirst hmem
    exact ⟨hmem, fun hin => (List.mem_cons.mp hin).elim hne hnot⟩

/-- The registry has the default catalog, which is the built-in one, and the catalogs of the loaded
plugins, no two of which share another name than the default.  When every plugin is unloaded, in
whatever order, the registry is as it was at first. -/
theorem registry_in_step {d : Depot} (h : d.Reached) :
    (∀ name, name ∈ d.registry.available ↔
      name = defaultCatalog ∨ ∃ p ∈ d.loaded, p.catalogName? = some name)
    ∧ (d.loaded.Pairwise fun p q =>
      p.catalogName? = q.catalogName? → p.catalogName? = some defaultCatalog)
    ∧ d.registry.find? defaultCatalog = some .builtIn
    ∧ ∀ order, (∀ held, held ∈ order ↔ held ∈ d.holdings) →
      (d.unloadEach order).loaded = [] ∧ (d.unloadEach order).registry = .fresh := by
  have hs := h.sound
  refine ⟨fun name => ?_, hs.apart, hs.find_default, fun order ho => ?_⟩
  · rw [Registry.mem_available_iff, hs.mem_keys_iff]
  · have hg : ∀ held ∈ order, d.Genuine held.2 := by
      intro held hm
      exact h.genuine (mem_loaded_iff.mpr ⟨held.1, (ho held).mp hm⟩)
    obtain ⟨hreached, hleft⟩ := h.unloadEach hg
    have hnil : (d.unloadEach order).loaded = [] := by
      refine List.eq_nil_iff_forall_not_mem.mpr fun p hp => ?_
      obtain ⟨k, hk⟩ := mem_loaded_iff.mp hp
      obtain ⟨hheld, hnot⟩ := hleft (k, p) hk
      exact hnot ((ho (k, p)).mpr hheld)
    refine ⟨hnil, ?_⟩
    have hsound := hreached.sound
    rw [hnil] at hsound
    exact hsound.registry_eq_fresh

/-- a file with a catalog of its own, and one that offers the built-in catalog -/
def twoFiles : FileSystem :=
  { root := .directory [
      ("new.py", .file { content := .code .shipped }),
      ("own.py", .file { content := .code (.classes [
        { className := "Own", name := .ok "Own", offer := .builtIn }]) })]
    workingDirectory := [] }

/-- two shelves, the second of which fails to load what is on the first -/
def twoShelves : Depot :=
  (((((Depot.mk [] .fresh 1).perform (.openShelf "first")).perform (.openShelf "second")).perform
    (.load 0 twoFiles "new.py")).perform (.load 1 twoFiles "new.py")).perform
    (.load 1 twoFiles "own.py")

theorem registry_in_step_twoShelves :
    twoShelves.Reached
    ∧ twoShelves.holdings.map (fun held => (held.1, held.2.catalogName?))
      = [(0, some "neoverse-v2"), (1, some "apple-m")]
    ∧ (twoShelves.unloadEach twoShelves.holdings).registry = .fresh := by
  have h : twoShelves.Reached := by
    unfold twoShelves
    exact .step (.step (.step (.step (.step (.start 1) trivial) trivial) trivial) trivial) trivial
  refine ⟨h, by decide +kernel, ?_⟩
  exact ((registry_in_step h).2.2.2 twoShelves.holdings fun _ => Iff.rfl).2

end Depot

end MacroFusion
