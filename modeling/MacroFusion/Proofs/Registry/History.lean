import MacroFusion.Registry

/-!
# Histories: what a registry can come to

A registry is changed by registering and unregistering only.  A history is a list of such calls, with
the ones that fail among them, and every registry is the outcome of some history.

* `register_cases`, `register_error`   what a registration that succeeds does to the registry, and how
                           one can fail;
* `mem_available_iff`      the names on show are the names of the entries;
* `Call`, `perform`, `after`   calls, one call, and the registry after a list of them;
* `perform_cases`          what a call comes to;
* `after_induction`        what holds at first and is kept by every call holds of every registry;
* `default_mem_after`      the default catalog is always there;
* `get_after_eq`           so that a look-up fails only for a name that is not registered.
-/

namespace MacroFusion.Registry

/-- A registration puts the catalog under its name, or finds it there already. -/
theorem register_cases {r r' : Registry} {e : Edition} {replacing : Bool}
    (h : r.register e replacing = .ok r') :
    (r' = ⟨r.entries.put e.catalog.name e⟩
      ∧ (replacing = true ∨ e.catalog.name ∉ r.entries.keys))
    ∨ (r' = r ∧ replacing = false
      ∧ ∃ known, r.find? e.catalog.name = some known ∧ known.serial = e.serial) := by
  unfold register at h
  cases hf : r.find? e.catalog.name with
  | none =>
    rw [hf] at h
    exact Or.inl ⟨(Except.ok.inj h).symm, Or.inr (Dictionary.lookup_eq_none_iff.mp hf)⟩
  | some known =>
    rw [hf] at h
    cases replacing with
    | true => exact Or.inl ⟨(Except.ok.inj h).symm, Or.inl rfl⟩
    | false =>
      have h' : (if known.serial = e.serial then Except.ok r
        else Except.error (Fault.duplicateCatalog e.catalog.name)) = .ok r' := h
      by_cases hs : known.serial = e.serial
      · rw [if_pos hs] at h'
        exact Or.inr ⟨(Except.ok.inj h').symm, rfl, known, rfl, hs⟩
      · rw [if_neg hs] at h'
        cases h'

theorem register_error {r : Registry} {e : Edition} {replacing : Bool} {f : Fault}
    (h : r.register e replacing = .error f) : f = .duplicateCatalog e.catalog.name := by
  unfold register at h
  grind

theorem mem_available_iff {r : Registry} {name : String} :
    name ∈ r.available ↔ name ∈ r.entries.keys := List.mem_mergeSort

/-! ## Calls -/

/-- what a registry is asked to do -/
inductive Call where
  | register (e : Edition) (replacing : Bool)
  | unregister (name : String)
  /-- a look-up, which changes nothing -/
  | get (name : String)

/-- the registry after a call; one that fails leaves it as it is -/
def perform (r : Registry) : Call → Registry
  | .register e replacing =>
    match r.register e replacing with
    | .ok r' => r'
    | .error _ => r
  | .unregister name => (r.unregister name).2
  | .get _ => r

/-- the registry after some calls, from the fresh one on -/
def after (calls : List Call) : Registry := calls.foldl perform fresh

theorem after_induction {P : Registry → Prop} (h0 : P fresh)
    (hs : ∀ r call, P r → P (r.perform call)) (calls : List Call) : P (after calls) := by
  unfold after
  generalize fresh = r at h0
  induction calls generalizing r with
  | nil => exact h0
  | cons call calls ih => exact ih (r.perform call) (hs r call h0)

/-- What a call comes to: nothing, a catalog that is put under its name, or a name that is removed. -/
theorem perform_cases (r : Registry) (call : Call) :
    r.perform call = r
    ∨ (∃ e replacing, call = .register e replacing
      ∧ r.perform call = ⟨r.entries.put e.catalog.name e⟩
      ∧ (replacing = true ∨ e.catalog.name ∉ r.entries.keys))
    ∨ (∃ name, call = .unregister name ∧ name ≠ defaultCatalog
      ∧ r.perform call = ⟨r.entries.remove name⟩) := by
  cases call with
  | register e replacing =>
    rw [perform]
    cases hr : r.register e replacing with
    | error f => exact Or.inl rfl
    | ok r' =>
      rcases register_cases hr with ⟨hput, hfree⟩ | ⟨hsame, _⟩
      · exact Or.inr (Or.inl ⟨e, replacing, rfl, hput, hfree⟩)
      · exact Or.inl hsame
  | unregister name =>
    rw [perform, unregister]
    by_cases hn : name = defaultCatalog
    · rw [if_pos hn]
      exact Or.inl rfl
    · rw [if_neg hn]
      exact Or.inr (Or.inr ⟨name, rfl, hn, rfl⟩)
  | get name => exact Or.inl rfl

/-! ## The default catalog -/

theorem default_mem_perform {r : Registry} (h : defaultCatalog ∈ r.entries.keys) (call : Call) :
    defaultCatalog ∈ (r.perform call).entries.keys := by
  rcases perform_cases r call with hr | ⟨e, _, _, hr, _⟩ | ⟨name, _, hn, hr⟩ <;> rw [hr]
  · exact h
  · exact Dictionary.mem_keys_put.mpr (Or.inr h)
  · exact Dictionary.mem_keys_remove.mpr ⟨h, Ne.symm hn⟩

theorem default_mem_after (calls : List Call) : defaultCatalog ∈ (after calls).entries.keys :=
  after_induction (P := fun r => defaultCatalog ∈ r.entries.keys) List.mem_cons_self
    (fun _ call h => default_mem_perform h call) calls

/-- the name that a look-up goes by -/
def keyOf (name : String) : String := if name = "" then defaultCatalog else name

theorem get_eq (r : Registry) (name : String) :
    r.get name = match r.find? (keyOf name) with
      | some e => .ok e
      | none => .error (.unknownCatalog (keyOf name)) := by
  unfold get keyOf
  by_cases h : name = ""
  · rw [if_pos h, h]
    rfl
  · have he : name.isEmpty = false := by
      rw [← Bool.not_eq_true, String.isEmpty_iff]
      exact h
    rw [if_neg h, he]
    rfl

theorem get_of_find? {r : Registry} {name : String} {e : Edition}
    (h : r.find? (keyOf name) = some e) : r.get name = .ok e := by
  rw [get_eq, h]

/-- A look-up finds what is registered, and fails otherwise; the empty name never fails. -/
theorem get_after_eq (calls : List Call) (name : String) :
    (∃ e, (after calls).find? (keyOf name) = some e ∧ (after calls).get name = .ok e
      ∧ (name = "" ∨ name ∈ (after calls).available))
    ∨ ((after calls).get name = .error (.unknownCatalog name) ∧ name ≠ ""
      ∧ name ∉ (after calls).available) := by
  rw [get_eq]
  cases hf : (after calls).find? (keyOf name) with
  | some e =>
    refine Or.inl ⟨e, rfl, rfl, ?_⟩
    by_cases h : name = ""
    · exact Or.inl h
    · rw [keyOf, if_neg h] at hf
      refine Or.inr (mem_available_iff.mpr (Dictionary.mem_keys_iff.mpr ?_))
      rw [show (after calls).entries.lookup name = some e from hf]
      rfl
  | none =>
    have hk : keyOf name ∉ (after calls).entries.keys := Dictionary.lookup_eq_none_iff.mp hf
    have h : name ≠ "" := by
      intro h
      rw [keyOf, if_pos h] at hk
      exact hk (default_mem_after calls)
    rw [keyOf, if_neg h] at hk ⊢
    exact Or.inr ⟨rfl, h, fun hm => hk (mem_available_iff.mp hm)⟩

end MacroFusion.Registry
