import MacroFusion.Text.Search

/-!
# The order of texts

Texts are compared character by character.  What a slash does to the order of names: it ends a name, and
is itself compared with what another name has in its place, so that `a-b/` comes before `a/` although `a`
comes before `a-b`.

* `pairwise_lt_mergeSort`   a sort by names that are all different;
* `append_lt_append_iff`    a common beginning does not count;
* `lt_slash_iff`, `slash_lt_slash_iff`   what follows the first slash does not count either, if the names
                            before it differ.
-/

namespace MacroFusion.Text

theorem pairwise_lt_mergeSort {α : Type} {name : α → String} {xs : List α} (h : (xs.map name).Nodup) :
    (xs.mergeSort fun a b => !decide (name b < name a)).Pairwise fun a b => name a < name b := by
  have hle : (xs.mergeSort fun a b => !decide (name b < name a)).Pairwise fun a b =>
      (!decide (name b < name a)) = true := by
    apply List.pairwise_mergeSort
    · intro a b c hab hbc
      simp only [Bool.not_eq_true', decide_eq_false_iff_not, String.not_lt] at hab hbc ⊢
      exact String.le_trans hab hbc
    · intro a b
      simp only [Bool.or_eq_true, Bool.not_eq_true', decide_eq_false_iff_not, String.not_lt]
      exact String.le_total (name a) (name b)
  have hne : (xs.mergeSort fun a b => !decide (name b < name a)).Pairwise fun a b => name a ≠ name b :=
    List.pairwise_map.mp (((List.mergeSort_perm _ _).map name).nodup_iff.mpr h)
  refine (hle.and hne).imp ?_
  intro a b hab
  simp only [Bool.not_eq_true', decide_eq_false_iff_not, String.not_lt] at hab
  exact Std.lt_of_le_of_ne hab.1 hab.2

/-! ## Beginnings and slashes -/

theorem append_lt_append_iff (before : List Char) {x y : List Char} :
    before ++ x < before ++ y ↔ x < y := by
  induction before with
  | nil => exact Iff.rfl
  | cons c before ih =>
    rw [List.cons_append, List.cons_append, List.cons_lt_cons_iff, ih]
    simp

theorem lt_slash_iff {a : List Char} (ha : '/' ∉ a) (s x : List Char) :
    a < s ++ '/' :: x ↔ a < s ++ ['/'] := by
  induction s generalizing a with
  | nil =>
    cases a with
    | nil => simp
    | cons c a =>
      have hc : c ≠ '/' := fun e => ha (e ▸ List.mem_cons_self)
      simp [List.cons_lt_cons_iff, hc]
  | cons d s ih =>
    cases a with
    | nil => simp
    | cons c a =>
      rw [List.cons_append, List.cons_append, List.cons_lt_cons_iff, List.cons_lt_cons_iff,
        ih fun h => ha (List.mem_cons_of_mem c h)]

theorem slash_lt_slash_iff {s t : List Char} (hs : '/' ∉ s) (ht : '/' ∉ t) (hne : s ≠ t)
    (x y : List Char) : s ++ '/' :: x < t ++ '/' :: y ↔ s ++ ['/'] < t ++ ['/'] := by
  induction s generalizing t with
  | nil =>
    cases t with
    | nil => exact absurd rfl hne
    | cons d t =>
      have hd : '/' ≠ d := fun e => ht (e ▸ List.mem_cons_self)
      simp [List.cons_lt_cons_iff, hd]
  | cons c s ih =>
    cases t with
    | nil =>
      have hc : c ≠ '/' := fun e => hs (e ▸ List.mem_cons_self)
      simp [List.cons_lt_cons_iff, hc]
    | cons d t =>
      simp only [List.cons_append, List.cons_lt_cons_iff]
      by_cases hcd : c = d
      · subst hcd
        rw [ih (fun h => hs (List.mem_cons_of_mem c h)) (fun h => ht (List.mem_cons_of_mem c h))
          fun e => hne (by rw [e])]
      · simp [hcd]

end MacroFusion.Text
