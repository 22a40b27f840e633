import Mathlib.Data.List.Nodup
import MacroFusion.Proofs.Registry.Bindings

/-!
# The overview of the catalogs

The overview goes through the names on show and looks every one of them up.  A look-up takes the empty
name for the default one, but a catalog can be registered under the empty name as under any other.  Such
a catalog is on show and never found: the default one is shown in its place, and again under its own
name.

* `editions`, `shown`   the catalogs that are registered, and those of the overview;
* `list_eq`             the overview is made of the lines of the catalogs that are shown;
* `shown_perm_editions`, `shown_not_nodup`   without the empty name these are the registered ones, and
                        with it the default one comes twice;
* `overview_after`      for every history, both look-up and overview are right just if the empty name
                        is not on show.
-/

namespace MacroFusion

/-- the values are what the names look up -/
theorem Dictionary.filterMap_lookup_keys {α : Type} {d : Dictionary α} (h : d.keys.Nodup) :
    d.keys.filterMap (fun name => d.lookup name) = d.map (·.2) := by
  induction d with
  | nil => rfl
  | cons first rest ih =>
    obtain ⟨k, v⟩ := first
    have hnd := List.nodup_cons.mp h
    have hrest : ∀ name ∈ keys rest, List.lookup name ((k, v) :: rest) = rest.lookup name := by
      intro name hn
      have hne : (name == k) = false := by
        simpa using fun e : name = k => hnd.1 (e ▸ hn)
      rw [List.lookup_cons, hne]
    show List.filterMap _ (k :: keys rest) = v :: rest.map (·.2)
    rw [List.filterMap_cons, List.lookup_cons, beq_self_eq_true, List.filterMap_congr hrest]
    exact congrArg (v :: ·) (ih hnd.2)

namespace Registry

/-- the catalogs that are registered -/
def editions (r : Registry) : List Edition := r.entries.map (·.2)

/-- the catalogs that the overview finds under the names on show -/
def shown (r : Registry) : List Edition := r.available.filterMap fun name => r.find? (keyOf name)

theorem keyOf_of_ne {name : String} (h : name ≠ "") : keyOf name = name := if_neg h

/-! ## Looking up one name after the other -/

theorem mapM_get {r : Registry} {names : List String}
    (h : ∀ name ∈ names, ∃ e, r.find? (keyOf name) = some e) :
    names.mapM r.get = .ok (names.filterMap fun name => r.find? (keyOf name)) := by
  induction names with
  | nil => rfl
  | cons name names ih =>
    obtain ⟨e, he⟩ := h name List.mem_cons_self
    have hrest := ih fun other ho => h other (List.mem_cons_of_mem name ho)
    rw [List.mapM_cons, get_of_find? he, hrest, List.filterMap_cons, he]
    rfl

theorem map_name_filterMap {r : Registry} (hr : r.WellKept) {names : List String}
    (h : ∀ name ∈ names, ∃ e, r.find? (keyOf name) = some e) :
    (names.filterMap fun name => r.find? (keyOf name)).map (·.catalog.name) = names.map keyOf := by
  induction names with
  | nil => rfl
  | cons name names ih =>
    obtain ⟨e, he⟩ := h name List.mem_cons_self
    have hrest := ih fun other ho => h other (List.mem_cons_of_mem name ho)
    rw [List.filterMap_cons, he, List.map_cons, List.map_cons, hrest, hr.name_of_find? he]

theorem find?_keyOf {r : Registry} (hd : defaultCatalog ∈ r.entries.keys) {name : String}
    (h : name ∈ r.available) : ∃ e, r.find? (keyOf name) = some e := by
  apply Option.isSome_iff_exists.mp
  apply Dictionary.mem_keys_iff.mp
  by_cases hn : name = ""
  · rw [hn]
    exact hd
  · rw [keyOf_of_ne hn]
    exact mem_available_iff.mp h

theorem list_eq {r : Registry} (hd : defaultCatalog ∈ r.entries.keys) :
    r.list = .ok ("\n".intercalate (r.shown.flatMap (·.catalog.summaryLines))) := by
  rw [list, mapM_get fun name hn => find?_keyOf hd hn]
  rfl

/-! ## The empty name -/

theorem shown_not_nodup {r : Registry} (hd : defaultCatalog ∈ r.entries.keys)
    (h : "" ∈ r.available) : ¬ r.shown.Nodup := by
  obtain ⟨d, hfind⟩ := find?_keyOf hd h
  obtain ⟨before, later, havail⟩ := List.append_of_mem h
  -- the default name is another one than the empty one, and stands before or after it
  have hmem : defaultCatalog ∈ before ++ later := by
    have hin : defaultCatalog ∈ r.available := mem_available_iff.mpr hd
    rw [havail] at hin
    simpa [show defaultCatalog ≠ "" by decide] using hin
  have hdup : d ∈ (before ++ later).filterMap fun name => r.find? (keyOf name) :=
    List.mem_filterMap.mpr ⟨defaultCatalog, hmem, hfind⟩
  rw [shown, havail, List.filterMap_append, List.filterMap_cons, hfind, List.nodup_middle,
    ← List.filterMap_append]
  exact fun hnd => (List.nodup_cons.mp hnd).1 hdup

section
variable {r : Registry} (hr : r.WellKept)
include hr

theorem editions_eq : r.editions = r.entries.keys.filterMap r.find? :=
  (Dictionary.filterMap_lookup_keys hr.keys_nodup).symm

theorem editions_nodup : r.editions.Nodup := by
  rw [editions_eq hr]
  refine List.Nodup.filterMap ?_ hr.keys_nodup
  intro name other e hn ho
  rw [← hr.name_of_find? hn, ← hr.name_of_find? ho]

theorem shown_perm_editions (h : "" ∉ r.available) : r.shown.Perm r.editions := by
  have hkey : ∀ name ∈ r.available, r.find? (keyOf name) = r.find? name := by
    intro name hn
    rw [keyOf_of_ne fun e => h (e ▸ hn)]
  rw [shown, List.filterMap_congr hkey, editions_eq hr]
  exact (List.mergeSort_perm _ _).filterMap _

variable (hd : defaultCatalog ∈ r.entries.keys)
include hd

theorem shown_nodup_iff : r.shown.Nodup ↔ "" ∉ r.available := by
  constructor
  · intro hnd h
    exact shown_not_nodup hd h hnd
  · intro h
    exact (shown_perm_editions hr h).nodup_iff.mpr (editions_nodup hr)

theorem shown_perm_iff : r.shown.Perm r.editions ↔ "" ∉ r.available := by
  constructor
  · intro hp
    exact (shown_nodup_iff hr hd).mp (hp.nodup_iff.mpr (editions_nodup hr))
  · exact shown_perm_editions hr

/-- Every name on show reads back its catalog just if none of them is empty. -/
theorem reads_back_iff :
    (∀ name ∈ r.available, ∃ e, r.find? name = some e ∧ r.get name = .ok e) ↔ "" ∉ r.available := by
  constructor
  · intro h hmem
    obtain ⟨e, he, hget⟩ := h "" hmem
    obtain ⟨d, hfind⟩ := find?_keyOf hd hmem
    rw [get_of_find? hfind] at hget
    -- one catalog would have the empty name and the default one
    obtain rfl : d = e := Except.ok.inj hget
    have heq : defaultCatalog = "" := (hr.name_of_find? hfind).symm.trans (hr.name_of_find? he)
    exact absurd heq (by decide)
  · intro h name hn
    have hkey := keyOf_of_ne fun e : name = "" => h (e ▸ hn)
    obtain ⟨e, he⟩ := find?_keyOf hd hn
    exact ⟨e, hkey ▸ he, get_of_find? he⟩

end

/-- **Look-up and overview after any calls.**  The overview never fails: it shows the catalogs that the
names on show are looked up as, where the empty name is taken for the default one.  All names read back
what they are bound to just if the empty name is not on show; the same holds of the overview showing
the registered catalogs, and of it showing none twice. -/
theorem overview_after (calls : List Call) :
    ((∀ name ∈ (after calls).available, ∃ e,
        (after calls).find? name = some e ∧ (after calls).get name = .ok e)
      ↔ "" ∉ (after calls).available)
    ∧ (after calls).list
      = .ok ("\n".intercalate ((after calls).shown.flatMap (·.catalog.summaryLines)))
    ∧ (after calls).shown.map (·.catalog.name) = (after calls).available.map keyOf
    ∧ ((after calls).shown.Perm (after calls).editions ↔ "" ∉ (after calls).available)
    ∧ ((after calls).shown.Nodup ↔ "" ∉ (after calls).available) := by
  have hr := after_wellKept calls
  have hd := default_mem_after calls
  exact ⟨reads_back_iff hr hd, list_eq hd, map_name_filterMap hr fun _ hn => find?_keyOf hd hn,
    shown_perm_iff hr hd, shown_nodup_iff hr hd⟩

/-- a catalog without a name is bound to it, and the default one is found in its place -/
example :
    let r := after [.register ⟨1, { name := "", description := "", rules := [] }⟩ false]
    (r.find? "").map (·.serial) = some 1 ∧ (r.get "").toOption.map (·.serial) = some 0 := by
  decide

end Registry

end MacroFusion
