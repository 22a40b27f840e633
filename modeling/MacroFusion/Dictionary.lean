/-!
# Dictionaries in the order of insertion

Values under names, listed in the order in which the names first came.  `put` overwrites a value in
its place, `putNew` keeps the first one.
-/

namespace MacroFusion

abbrev Dictionary (α : Type) := List (String × α)

namespace Dictionary

variable {α : Type}

def keys (d : Dictionary α) : List String := d.map (·.1)

/-- sets the value of a name: in its place if the name is known, else at the end -/
def put (key : String) (value : α) : Dictionary α → Dictionary α
  | [] => [(key, value)]
  | (k, v) :: rest => if k = key then (key, value) :: rest else (k, v) :: put key value rest

/-- adds a name at the end unless it is known -/
def putNew (key : String) (value : α) (d : Dictionary α) : Dictionary α :=
  match d.lookup key with
  | some _ => d
  | none => d ++ [(key, value)]

/-- changes the value of a name, which is `initial` if the name is not known -/
def update (key : String) (initial : α) (change : α → α) (d : Dictionary α) : Dictionary α :=
  d.put key (change ((d.lookup key).getD initial))

/-- forgets a name -/
def remove (key : String) (d : Dictionary α) : Dictionary α := d.filter (·.1 != key)

theorem lookup_put_self (key : String) (value : α) (d : Dictionary α) :
    (put key value d).lookup key = some value := by
  induction d with
  | nil => simp [put]
  | cons entry rest ih =>
    obtain ⟨k, v⟩ := entry
    by_cases h : k = key
    · simp [put, h]
    · have h' : (key == k) = false := by simpa using fun e => h e.symm
      simp [put, h, List.lookup_cons, h', ih]

theorem lookup_put_of_ne {key other : String} (h : other ≠ key) (value : α) (d : Dictionary α) :
    (put key value d).lookup other = d.lookup other := by
  induction d with
  | nil =>
    have h' : (other == key) = false := by simpa using h
    simp [put, List.lookup_cons, h']
  | cons entry rest ih =>
    obtain ⟨k, v⟩ := entry
    by_cases hk : k = key
    · have h' : (other == key) = false := by simpa using h
      simp [put, hk, List.lookup_cons, h']
    · simp [put, hk, List.lookup_cons, ih]

/-! ## Names and look-ups -/

theorem mem_keys_iff {key : String} {d : Dictionary α} :
    key ∈ d.keys ↔ (d.lookup key).isSome = true := by
  rw [List.lookup_isSome_iff, keys, List.mem_map]
  constructor
  · rintro ⟨entry, he, rfl⟩
    exact ⟨entry, he, beq_self_eq_true _⟩
  · rintro ⟨entry, he, hk⟩
    exact ⟨entry, he, (eq_of_beq hk).symm⟩

theorem lookup_eq_none_iff {key : String} {d : Dictionary α} :
    d.lookup key = none ↔ key ∉ d.keys := by
  rw [mem_keys_iff, Option.not_isSome_iff_eq_none]

theorem mem_of_lookup {key : String} {value : α} {d : Dictionary α}
    (h : d.lookup key = some value) : (key, value) ∈ d := by
  obtain ⟨before, after, rfl, -⟩ := List.lookup_eq_some_iff.mp h
  exact List.mem_append_right _ List.mem_cons_self

/-- a new name goes to the end -/
theorem put_of_not_mem {key : String} {d : Dictionary α} (h : key ∉ d.keys) (value : α) :
    put key value d = d ++ [(key, value)] := by
  induction d with
  | nil => rfl
  | cons entry rest ih =>
    obtain ⟨k, v⟩ := entry
    have hk : k ≠ key := fun e => h (e ▸ List.mem_cons_self)
    have hr : key ∉ keys rest := fun hm => h (List.mem_cons_of_mem _ hm)
    rw [put, if_neg hk, ih hr, List.cons_append]

/-- a known name stays where it is -/
theorem keys_put_of_mem {key : String} {d : Dictionary α} (h : key ∈ d.keys) (value : α) :
    (put key value d).keys = d.keys := by
  induction d with
  | nil => exact absurd h (by simp [keys])
  | cons entry rest ih =>
    obtain ⟨k, v⟩ := entry
    by_cases hk : k = key
    · rw [put, if_pos hk, hk]
      rfl
    · have hr : key ∈ keys rest := (List.mem_cons.mp h).resolve_left fun e => hk e.symm
      rw [put, if_neg hk]
      show k :: keys (put key value rest) = k :: keys rest
      rw [ih hr]

theorem keys_put_of_not_mem {key : String} {d : Dictionary α} (h : key ∉ d.keys) (value : α) :
    (put key value d).keys = d.keys ++ [key] := by
  rw [put_of_not_mem h, keys, List.map_append]
  rfl

theorem mem_keys_put {key other : String} {d : Dictionary α} {value : α} :
    other ∈ (put key value d).keys ↔ other = key ∨ other ∈ d.keys := by
  by_cases h : key ∈ d.keys
  · rw [keys_put_of_mem h]
    exact ⟨Or.inr, fun ho => ho.elim (fun e => e ▸ h) id⟩
  · rw [keys_put_of_not_mem h, List.mem_append, List.mem_singleton, or_comm]

theorem mem_keys_putNew {key other : String} {d : Dictionary α} {value : α} :
    other ∈ (putNew key value d).keys ↔ other = key ∨ other ∈ d.keys := by
  unfold putNew
  cases hl : d.lookup key with
  | some known =>
    have hk : key ∈ d.keys := mem_keys_iff.mpr (by rw [hl]; rfl)
    exact ⟨Or.inr, fun ho => ho.elim (fun e => e ▸ hk) id⟩
  | none =>
    show other ∈ keys (d ++ [(key, value)]) ↔ _
    rw [keys, List.map_append, List.mem_append, or_comm]
    exact or_congr_left List.mem_singleton

theorem keys_remove (key : String) (d : Dictionary α) :
    (remove key d).keys = d.keys.filter (· != key) := by
  rw [keys, keys, List.filter_map]
  rfl

theorem mem_keys_remove {key other : String} {d : Dictionary α} :
    other ∈ (remove key d).keys ↔ other ∈ d.keys ∧ other ≠ key := by
  rw [keys_remove, List.mem_filter, bne_iff_ne]

theorem lookup_remove_of_ne {key other : String} (h : other ≠ key) (d : Dictionary α) :
    (remove key d).lookup other = d.lookup other := by
  induction d with
  | nil => rfl
  | cons entry rest ih =>
    obtain ⟨k, v⟩ := entry
    show List.lookup other (List.filter (·.1 != key) ((k, v) :: rest)) = _
    by_cases hk : k = key
    · have ho : (other == k) = false := by
        rw [hk]
        simpa using h
      rw [List.filter_cons_of_neg (by simp [hk]), List.lookup_cons, ho]
      exact ih
    · rw [List.filter_cons_of_pos (by simp [hk]), List.lookup_cons, List.lookup_cons]
      cases other == k with
      | true => rfl
      | false => exact ih

theorem lookup_remove_self (key : String) (d : Dictionary α) : (remove key d).lookup key = none := by
  rw [lookup_eq_none_iff, mem_keys_remove]
  exact fun h => h.2 rfl

/-- a new name that is forgotten again leaves no trace -/
theorem remove_put_of_not_mem {key : String} {d : Dictionary α} (h : key ∉ d.keys) (value : α) :
    remove key (put key value d) = d := by
  have hd : d.filter (·.1 != key) = d := by
    apply List.filter_eq_self.mpr
    intro entry he
    exact bne_iff_ne.mpr fun heq => h (heq ▸ List.mem_map_of_mem he)
  rw [put_of_not_mem h, remove, List.filter_append, hd, List.filter_cons_of_neg (by simp),
    List.filter_nil, List.append_nil]

/-! ## Entries, where no name comes twice -/

theorem nodup_keys_put {d : Dictionary α} (h : d.keys.Nodup) (key : String) (value : α) :
    (put key value d).keys.Nodup := by
  by_cases hk : key ∈ d.keys
  · rw [keys_put_of_mem hk]
    exact h
  · rw [keys_put_of_not_mem hk, List.nodup_append]
    refine ⟨h, List.pairwise_singleton _ _, ?_⟩
    intro name hm other ho heq
    exact hk (List.mem_singleton.mp ho ▸ heq ▸ hm)

theorem nodup_keys_remove {d : Dictionary α} (h : d.keys.Nodup) (key : String) :
    (remove key d).keys.Nodup := by
  rw [keys_remove]
  exact h.sublist List.filter_sublist

/-- an entry after `put` is the new one or an old one -/
theorem mem_put {key : String} {value : α} {d : Dictionary α} {entry : String × α}
    (h : entry ∈ put key value d) : entry = (key, value) ∨ entry ∈ d := by
  induction d with
  | nil => exact Or.inl (List.mem_singleton.mp h)
  | cons first rest ih =>
    obtain ⟨k, v⟩ := first
    by_cases hk : k = key
    · rw [put, if_pos hk] at h
      exact (List.mem_cons.mp h).imp_right (List.mem_cons_of_mem _)
    · rw [put, if_neg hk] at h
      rcases List.mem_cons.mp h with rfl | h
      · exact Or.inr List.mem_cons_self
      · exact (ih h).imp_right (List.mem_cons_of_mem _)

end Dictionary

end MacroFusion
