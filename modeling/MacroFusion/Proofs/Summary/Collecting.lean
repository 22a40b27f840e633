import Mathlib.Data.List.Nodup
import Mathlib.Data.Nat.SuccPred
import MacroFusion.Proofs.Analysis.Balance

/-!
# Collecting: one pass over records that keeps a value for each name

Counts of names and examples of missed patterns are collected in the same way: a pass over the records
changes the value of the name that each record has.  Records of different names may come in any order.
The value of a name is what the records of this name alone make of it, and the names stand in the order
in which they first came.

* `table`             some names with a value for each;
* `foldl_update`      what a pass collects, as a table;
* `counted_eq`        the numbers of occurrences;
* `ranked_eq`         so that a ranking is a table of them, sorted;
* `missExamplesOf_eq` the first misses of each pattern.
-/

namespace MacroFusion

theorem nodup_distinct (names : List String) : (distinct names).Nodup := by
  induction names using List.reverseRecOn with
  | nil => exact List.nodup_nil
  | append_singleton names name ih =>
    rw [distinct_concat]
    by_cases h : name ∈ names
    · rwa [if_pos h]
    · rw [if_neg h, ← List.concat_eq_append]
      exact ih.concat fun hm => h (mem_distinct.mp hm)

namespace Dictionary

variable {α β : Type}

/-- some names with a value for each -/
def table (names : List String) (value : String → α) : Dictionary α :=
  names.map fun name => (name, value name)

theorem keys_table (names : List String) (value : String → α) : (table names value).keys = names := by
  rw [keys, table, List.map_map]
  exact List.map_id names

theorem table_congr {names : List String} {f g : String → α} (h : ∀ name ∈ names, f name = g name) :
    table names f = table names g :=
  List.map_congr_left fun name hn => by rw [h name hn]

theorem lookup_table_of_mem {names : List String} {name : String} (h : name ∈ names)
    (value : String → α) : (table names value).lookup name = some (value name) :=
  List.lookup_graph value h

theorem lookup_table_of_not_mem {names : List String} {name : String} (h : name ∉ names)
    (value : String → α) : (table names value).lookup name = none := by
  rw [lookup_eq_none_iff, keys_table]
  exact h

theorem put_table {names : List String} {key : String} (hn : names.Nodup) (h : key ∈ names)
    (value : String → α) (v : α) :
    put key v (table names value) = table names (Function.update value key v) := by
  induction names with
  | nil => exact absurd h List.not_mem_nil
  | cons name rest ih =>
    obtain ⟨hname, hrest⟩ := List.nodup_cons.mp hn
    show put key v ((name, value name) :: table rest value)
      = (name, Function.update value key v name) :: table rest (Function.update value key v)
    by_cases hk : name = key
    · subst hk
      have hsame : table rest value = table rest (Function.update value name v) := by
        apply table_congr
        intro other ho
        have hne : other ≠ name := fun e => hname (e ▸ ho)
        rw [Function.update_of_ne hne]
      rw [put, if_pos rfl, Function.update_self, hsame]
    · have hmem : key ∈ rest := (List.mem_cons.mp h).resolve_left fun e => hk e.symm
      rw [put, if_neg hk, ih hrest hmem, Function.update_of_ne hk]

theorem update_table_of_mem {names : List String} {key : String} (hn : names.Nodup)
    (h : key ∈ names) (value : String → α) (initial : α) (change : α → α) :
    update key initial change (table names value)
      = table names (Function.update value key (change (value key))) := by
  rw [update, lookup_table_of_mem h, put_table hn h]
  rfl

theorem update_table_of_not_mem {names : List String} {key : String} (h : key ∉ names)
    (value : String → α) (initial : α) (change : α → α) :
    update key initial change (table names value)
      = table (names ++ [key]) (Function.update value key (change initial)) := by
  have hsame : table names value = table names (Function.update value key (change initial)) := by
    apply table_congr
    intro other ho
    have hne : other ≠ key := fun e => h (e ▸ ho)
    rw [Function.update_of_ne hne]
  rw [update, lookup_table_of_not_mem h, put_of_not_mem (by rwa [keys_table]), hsame, table, table,
    List.map_append, List.map_singleton, Function.update_self]
  rfl

/-- what the records of one name make of the initial value -/
def gathered (key : β → String) (initial : α) (step : β → α → α) (xs : List β) (name : String) : α :=
  (xs.filter (key · = name)).foldl (fun v x => step x v) initial

section
variable (key : β → String) (initial : α) (step : β → α → α) (xs : List β) (x : β)

/-- a record more counts for its own name only -/
theorem gathered_concat : gathered key initial step (xs ++ [x])
    = Function.update (gathered key initial step xs) (key x)
      (step x (gathered key initial step xs (key x))) := by
  funext name
  unfold gathered
  by_cases h : key x = name
  · subst h
    rw [Function.update_self, List.filter_append, List.filter_cons_of_pos (by simp), List.foldl_append]
    rfl
  · rw [Function.update_of_ne (Ne.symm h), List.filter_append, List.filter_cons_of_neg (by simpa using h),
      List.filter_nil, List.append_nil]

theorem gathered_of_not_mem {name : String} (h : name ∉ xs.map key) :
    gathered key initial step xs name = initial := by
  have hnil : xs.filter (key · = name) = [] := by
    apply List.filter_eq_nil_iff.mpr
    intro y hy
    have hne : key y ≠ name := fun e => h (e ▸ List.mem_map_of_mem hy)
    simpa using hne
  rw [gathered, hnil]
  rfl

/-- **A pass keeps the names apart**, in whatever order their records come. -/
theorem foldl_update : xs.foldl (fun d x => update (key x) initial (step x) d) []
    = table (distinct (xs.map key)) (gathered key initial step xs) := by
  induction xs using List.reverseRecOn with
  | nil => rfl
  | append_singleton xs x ih =>
    rw [List.foldl_concat, ih, List.map_append, List.map_singleton, distinct_concat, gathered_concat]
    by_cases h : key x ∈ xs.map key
    · rw [if_pos h, update_table_of_mem (nodup_distinct _) (mem_distinct.mpr h)]
    · rw [if_neg h, update_table_of_not_mem (fun hm => h (mem_distinct.mp hm)),
        gathered_of_not_mem key initial step xs h]

end

end Dictionary

/-! ## Counts -/

theorem counted_eq (names : List String) :
    counted names = Dictionary.table (distinct names) fun name => names.count name := by
  have hcount : Dictionary.gathered id 0 (fun _ n => n + 1) names = fun name => names.count name := by
    funext name
    rw [Dictionary.gathered, List.foldl_const, Nat.succ_iterate, Nat.zero_add, List.count_eq_length_filter]
    rfl
  have hpass := Dictionary.foldl_update id 0 (fun _ n => n + 1) names
  rw [hcount, List.map_id] at hpass
  exact hpass

theorem ranked_eq (names : List String) :
    ranked names
      = ((distinct names).map fun name => (name, names.count name)).mergeSort fun a b => b.2 ≤ a.2 := by
  rw [ranked, counted_eq]
  rfl

/-! ## Examples -/

namespace Summary

theorem foldl_keepMiss (limit : Nat) (misses : List Miss) :
    misses.foldl (fun kept m => keepMiss limit m kept) [] = misses.take limit := by
  -- from the end: a miss more is kept exactly if the ones before it do not fill the limit
  induction misses using List.reverseRecOn with
  | nil => exact List.take_nil.symm
  | append_singleton misses m ih =>
    rw [List.foldl_concat, ih, keepMiss, List.length_take]
    by_cases h : misses.length < limit
    · rw [if_pos (by omega), List.take_of_length_le (by omega),
        List.take_of_length_le (by rw [List.length_append, List.length_singleton]; omega)]
    · rw [if_neg (by omega), List.take_append_of_le_length (by omega)]

/-- **The pass over the misses keeps the first ones of each pattern.** -/
theorem missExamplesOf_eq (limit : Nat) (missed : List Miss) :
    missExamplesOf limit missed = Dictionary.table (distinct (missed.map (·.pattern))) fun name =>
      (missed.filter (·.pattern = name)).take limit := by
  rw [missExamplesOf, Dictionary.foldl_update]
  apply Dictionary.table_congr
  intro name _
  exact foldl_keepMiss limit _

end Summary

end MacroFusion
