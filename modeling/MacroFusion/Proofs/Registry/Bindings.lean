import MacroFusion.Proofs.Registry.History
import MacroFusion.Proofs.Text.Order

/-!
# Bindings: which catalog a name stands for

A name is BOUND to the catalog that the registry has under it.  Catalogs are told apart by their
editions, so a name can be bound to another catalog that reads the same.

* `find?_perform_cases`   what one call does to the binding of a name: nothing, a registration under
                    that name, or its removal;
* `unbound_origin`, `bound_origin`   where the binding after some calls comes from: it was there
                    before them, or one of them made it;
* `rebound`         hence a binding is changed by a registration that replaces it, or by a removal and
                    a later registration;
* `WellKept`        no name comes twice, and each is that of its catalog;
* `register_eq_error_iff`   when a registration fails;
* `bindings_after`  all of this for every history.
-/

namespace MacroFusion.Registry

/-! ## The binding of one name -/

theorem find?_perform_cases (r : Registry) (call : Call) (name : String) :
    (r.perform call).find? name = r.find? name
    ∨ (∃ e replacing, call = .register e replacing ∧ e.catalog.name = name
      ∧ (r.perform call).find? name = some e ∧ (replacing = true ∨ r.find? name = none))
    ∨ (call = .unregister name ∧ (r.perform call).find? name = none) := by
  rcases perform_cases r call with hr | ⟨e, replacing, hc, hr, hfree⟩ | ⟨other, hc, _, hr⟩
  · exact Or.inl (by rw [hr])
  · rw [hr]
    by_cases hn : e.catalog.name = name
    · refine Or.inr (Or.inl ⟨e, replacing, hc, hn, ?_, ?_⟩)
      · rw [← hn]
        exact Dictionary.lookup_put_self e.catalog.name e r.entries
      · rw [← hn]
        exact hfree.imp_right Dictionary.lookup_eq_none_iff.mpr
    · exact Or.inl (Dictionary.lookup_put_of_ne (Ne.symm hn) e r.entries)
  · rw [hr]
    by_cases hn : other = name
    · rw [hn] at hc ⊢
      exact Or.inr (Or.inr ⟨hc, Dictionary.lookup_remove_self name r.entries⟩)
    · exact Or.inl (Dictionary.lookup_remove_of_ne (Ne.symm hn) r.entries)

/-- A name that is not bound was not bound before, or has been removed. -/
theorem unbound_origin {r : Registry} {more : List Call} {name : String}
    (h : (more.foldl perform r).find? name = none) :
    r.find? name = none ∨ .unregister name ∈ more := by
  induction more generalizing r with
  | nil => exact Or.inl h
  | cons call more ih =>
    rcases ih h with hnone | hmem
    · rcases find?_perform_cases r call name with hsame | ⟨e, _, _, _, hsome, _⟩ | ⟨hc, _⟩
      · exact Or.inl (hsame.symm.trans hnone)
      · cases hsome.symm.trans hnone
      · exact Or.inr (hc ▸ List.mem_cons_self)
    · exact Or.inr (List.mem_cons_of_mem call hmem)

/-- A catalog that is bound was bound before, or has been registered: in the place of another one, or
when the name was free. -/
theorem bound_origin {r : Registry} {more : List Call} {name : String} {e : Edition}
    (h : (more.foldl perform r).find? name = some e) :
    r.find? name = some e
    ∨ (e.catalog.name = name ∧ ∃ before replacing later,
      more = before ++ .register e replacing :: later
      ∧ (replacing = true ∨ (before.foldl perform r).find? name = none)) := by
  induction more generalizing r with
  | nil => exact Or.inl h
  | cons call more ih =>
    rcases ih h with hsome | ⟨hn, before, replacing, later, hmore, hfree⟩
    · rcases find?_perform_cases r call name with hsame | ⟨e', replacing, hc, hn, he, hfree⟩ | ⟨_, hnone⟩
      · exact Or.inl (hsame.symm.trans hsome)
      · obtain rfl : e' = e := Option.some.inj (he.symm.trans hsome)
        exact Or.inr ⟨hn, [], replacing, more, by rw [hc, List.nil_append], hfree⟩
      · cases hsome.symm.trans hnone
    · refine Or.inr ⟨hn, call :: before, replacing, later, ?_, hfree⟩
      rw [hmore, List.cons_append]

/-- `more` binds the name anew: the catalog replaces another one, or it is registered after the name was
removed -/
def Rebinds (more : List Call) (name : String) (e : Edition) : Prop :=
  (∃ before later, more = before ++ .register e true :: later)
  ∨ ∃ before between later replacing,
    more = before ++ .unregister name :: between ++ .register e replacing :: later

theorem rebound {r : Registry} {more : List Call} {name : String} {old new : Edition}
    (hold : r.find? name = some old) (hnew : (more.foldl perform r).find? name = some new)
    (hne : old ≠ new) : new.catalog.name = name ∧ Rebinds more name new := by
  rcases bound_origin hnew with hsame | ⟨hn, before, replacing, later, hmore, hfree⟩
  · exact absurd (Option.some.inj (hold.symm.trans hsame)) hne
  · refine ⟨hn, ?_⟩
    rcases hfree with rfl | hnone
    · exact Or.inl ⟨before, later, hmore⟩
    · -- the name was bound at first and free when it was registered, so it was removed in between
      have hmem : .unregister name ∈ before := (unbound_origin hnone).resolve_left (by simp [hold])
      obtain ⟨start, between, hbefore⟩ := List.append_of_mem hmem
      exact Or.inr ⟨start, between, later, replacing, by rw [hmore, hbefore]⟩

/-! ## What every history keeps -/

/-- no name comes twice, and each is that of its catalog -/
structure WellKept (r : Registry) : Prop where
  keys_nodup : r.entries.keys.Nodup
  named : ∀ entry ∈ r.entries, entry.2.catalog.name = entry.1

theorem WellKept.perform {r : Registry} (h : r.WellKept) (call : Call) :
    (r.perform call).WellKept := by
  rcases perform_cases r call with hr | ⟨e, _, _, hr, _⟩ | ⟨name, _, _, hr⟩ <;> rw [hr]
  · exact h
  · refine ⟨Dictionary.nodup_keys_put h.keys_nodup _ e, ?_⟩
    intro entry hm
    rcases Dictionary.mem_put hm with rfl | hm
    · rfl
    · exact h.named entry hm
  · refine ⟨Dictionary.nodup_keys_remove h.keys_nodup name, ?_⟩
    intro entry hm
    exact h.named entry (List.mem_filter.mp hm).1

theorem after_wellKept (calls : List Call) : (after calls).WellKept := by
  refine after_induction (P := WellKept) ⟨List.pairwise_singleton _ _, ?_⟩
    (fun _ call h => h.perform call) calls
  intro entry hm
  rw [List.mem_singleton.mp hm]
  rfl

theorem WellKept.name_of_find? {r : Registry} (h : r.WellKept) {name : String} {e : Edition}
    (he : r.find? name = some e) : e.catalog.name = name :=
  h.named (name, e) (Dictionary.mem_of_lookup he)

/-- the names on show go up -/
theorem WellKept.available_increasing {r : Registry} (h : r.WellKept) :
    r.available.Pairwise (· < ·) :=
  Text.pairwise_lt_mergeSort (by rw [List.map_id']; exact h.keys_nodup)

/-! ## Registrations that fail -/

/-- A registration fails when another catalog has the name and it is not to be replaced. -/
theorem register_eq_error_iff {r : Registry} {e : Edition} {replacing : Bool} {f : Fault} :
    r.register e replacing = .error f ↔ f = .duplicateCatalog e.catalog.name ∧ replacing = false
      ∧ ∃ known, r.find? e.catalog.name = some known ∧ known.serial ≠ e.serial := by
  rw [register]
  cases hf : r.find? e.catalog.name with
  | none => simp
  | some known =>
    cases replacing with
    | true => simp
    | false =>
      by_cases hs : known.serial = e.serial
      · simp [hs]
      · simpa [hs] using eq_comm

theorem after_concat (calls : List Call) (call : Call) :
    after (calls ++ [call]) = (after calls).perform call := by
  rw [after, List.foldl_append]
  rfl

/-- **The registry after any calls.**  Every name is that of its catalog; the default one is there, so
that a look-up without a name succeeds; the names on show are those that are bound, and go up; a
registration fails just when another catalog has the name, and then changes nothing; a name that is no
longer bound was removed, and one that has come to be bound to another catalog was bound anew. -/
theorem bindings_after (calls : List Call) :
    (∀ entry ∈ (after calls).entries, entry.2.catalog.name = entry.1)
    ∧ (∃ e, (after calls).find? defaultCatalog = some e ∧ (after calls).get "" = .ok e)
    ∧ (∀ name, name ∈ (after calls).available ↔ ∃ e, (after calls).find? name = some e)
    ∧ (after calls).available.Pairwise (· < ·)
    ∧ (∀ e replacing f, (after calls).register e replacing = .error f ↔
      f = .duplicateCatalog e.catalog.name ∧ replacing = false
      ∧ ∃ known, (after calls).find? e.catalog.name = some known ∧ known.serial ≠ e.serial)
    ∧ (∀ e replacing f, (after calls).register e replacing = .error f →
      after (calls ++ [.register e replacing]) = after calls)
    ∧ (∀ more name old, (after calls).find? name = some old →
      (after (calls ++ more)).find? name = none → .unregister name ∈ more)
    ∧ (∀ more name old new, (after calls).find? name = some old →
      (after (calls ++ more)).find? name = some new → old ≠ new →
      new.catalog.name = name ∧ Rebinds more name new) := by
  have hkept := after_wellKept calls
  refine ⟨hkept.named, ?_, ?_, hkept.available_increasing, fun _ _ _ => register_eq_error_iff, ?_, ?_,
    ?_⟩
  · obtain ⟨e, he⟩ := Option.isSome_iff_exists.mp (Dictionary.mem_keys_iff.mp (default_mem_after calls))
    exact ⟨e, he, get_of_find? he⟩
  · intro name
    rw [mem_available_iff, Dictionary.mem_keys_iff, Option.isSome_iff_exists]
    rfl
  · intro e replacing f hf
    rw [after_concat, perform, hf]
  · intro more name old hold hnone
    rw [after, List.foldl_append] at hnone
    exact (unbound_origin hnone).resolve_left fun h => Option.some_ne_none old (hold.symm.trans h)
  · intro more name old new hold hnew hne
    rw [after, List.foldl_append] at hnew
    exact rebound hold hnew hne

end MacroFusion.Registry
