import MacroFusion.Expression.Meaning
import MacroFusion.Pattern

/-!
# Words: patterns that list what they fit

Most patterns of a catalog offer a few mnemonics and nothing else: their sets name single characters and
their repetitions are bounded.  Such an expression can be written out as the list of its words.

* `Regex.words?`          the words of an expression, if it can be written out;
* `Regex.fits_iff_mem`    it fits just these words;
* `Pattern.words?`, `Pattern.fits_iff_mem`   the same for the pattern of a catalog and a mnemonic.

What a table of patterns says about every mnemonic is then a matter of finite lists.
-/

namespace MacroFusion

namespace Regex

/-! ## Characters -/

/-- the character of an entry that names just one -/
def Item.character? : Item → Option Char
  | .range lo hi => if lo = hi then some lo else none
  | .named _ | .except _ => none

/-- the characters of a set that names them one by one, without letters that count as the same -/
def CharSet.members? (set : CharSet) : Option (List Char) :=
  if set.negated = false ∧ set.fold = .exact ∧ ∀ item ∈ set.items, item.character?.isSome = true then
    some (set.items.filterMap Item.character?)
  else none

theorem Item.holds_iff {item : Item} {d : Char} (h : item.character? = some d) (c : Char) :
    item.holds .exact c = true ↔ d = c := by
  cases item with
  | range lo hi =>
    simp only [character?, Option.ite_none_right_eq_some, Option.some.injEq] at h
    obtain ⟨rfl, rfl⟩ := h
    show (decide (lo ≤ c) && decide (c ≤ lo)) = true ↔ _
    rw [Bool.and_eq_true, decide_eq_true_iff, decide_eq_true_iff]
    constructor
    · rintro ⟨h1, h2⟩
      exact Char.le_antisymm h1 h2
    · rintro rfl
      exact ⟨Char.le_refl _, Char.le_refl _⟩
  | named cls => cases h
  | except cls => cases h

theorem CharSet.holds_iff {set : CharSet} {cs : List Char} (h : set.members? = some cs) (c : Char) :
    set.holds c = true ↔ c ∈ cs := by
  simp only [members?, Option.ite_none_right_eq_some, Option.some.injEq] at h
  obtain ⟨⟨hneg, hfold, hone⟩, rfl⟩ := h
  have hb : ∀ b : Bool, (false != b) = b := by decide
  rw [CharSet.holds, hneg, hfold, hb, List.any_eq_true, List.mem_filterMap]
  constructor
  · rintro ⟨item, hmem, hc⟩
    obtain ⟨d, hd⟩ := Option.isSome_iff_exists.mp (hone item hmem)
    rw [Item.holds_iff hd] at hc
    exact ⟨item, hmem, hc ▸ hd⟩
  · rintro ⟨item, hmem, hd⟩
    exact ⟨item, hmem, (Item.holds_iff hd c).mpr rfl⟩

/-! ## Words in a row -/

/-- a word of the first list with one of the second after it -/
def joined (us vs : List (List Char)) : List (List Char) := us.flatMap fun u => vs.map (u ++ ·)

/-- so many words of a list in a row -/
def power (us : List (List Char)) : Nat → List (List Char)
  | 0 => [[]]
  | n + 1 => joined us (power us n)

theorem mem_joined {us vs : List (List Char)} {w : List Char} :
    w ∈ joined us vs ↔ ∃ u v, w = u ++ v ∧ u ∈ us ∧ v ∈ vs := by
  unfold joined
  rw [List.mem_flatMap]
  constructor
  · rintro ⟨u, hu, hw⟩
    obtain ⟨v, hv, rfl⟩ := List.mem_map.mp hw
    exact ⟨u, v, rfl, hu, hv⟩
  · rintro ⟨u, v, rfl, hu, hv⟩
    exact ⟨u, hu, List.mem_map_of_mem hv⟩

theorem mem_power_iff {r : Regex} {us : List (List Char)} (h : ∀ u, Fits r u ↔ u ∈ us) (n : Nat)
    (w : List Char) : w ∈ power us n ↔ Copies r n w := by
  induction n generalizing w with
  | zero => exact List.mem_singleton
  | succ n ih =>
    show w ∈ joined us (power us n) ↔ ∃ u v, w = u ++ v ∧ Fits r u ∧ Copies r n v
    rw [mem_joined]
    simp only [h, ih]

/-! ## The words of an expression -/

/-- all texts that an expression fits, if it names its characters and bounds its repetitions -/
def words? : Regex → Option (List (List Char))
  | .empty => some []
  | .epsilon => some [[]]
  | .one set => set.members?.map fun cs => cs.map fun c => [c]
  | .seq r s => r.words?.bind fun us => s.words?.map fun vs => joined us vs
  | .alt r s => r.words?.bind fun us => s.words?.map fun vs => us ++ vs
  | .times r lo (some hi) =>
    r.words?.map fun us => (List.range' lo (hi + 1 - lo)).flatMap fun n => power us n
  | .times _ _ none => none

/-- **An expression that is written out fits its words.** -/
theorem fits_iff_mem {r : Regex} {ws : List (List Char)} (h : r.words? = some ws) (w : List Char) :
    Fits r w ↔ w ∈ ws := by
  induction r generalizing ws w with
  | empty =>
    obtain rfl : [] = ws := Option.some.inj h
    exact iff_of_false (not_fits_empty w) (by simp)
  | epsilon =>
    obtain rfl : [[]] = ws := Option.some.inj h
    rw [fits_epsilon_iff, List.mem_singleton]
  | one set =>
    obtain ⟨cs, hcs, rfl⟩ := Option.map_eq_some_iff.mp h
    rw [fits_one_iff, List.mem_map]
    constructor
    · rintro ⟨c, hc, rfl⟩
      exact ⟨c, (CharSet.holds_iff hcs c).mp hc, rfl⟩
    · rintro ⟨c, hc, rfl⟩
      exact ⟨c, (CharSet.holds_iff hcs c).mpr hc, rfl⟩
  | seq r s ihr ihs =>
    obtain ⟨us, hus, h⟩ := Option.bind_eq_some_iff.mp h
    obtain ⟨vs, hvs, rfl⟩ := Option.map_eq_some_iff.mp h
    rw [fits_seq_iff, mem_joined]
    simp only [ihr hus, ihs hvs]
  | alt r s ihr ihs =>
    obtain ⟨us, hus, h⟩ := Option.bind_eq_some_iff.mp h
    obtain ⟨vs, hvs, rfl⟩ := Option.map_eq_some_iff.mp h
    rw [fits_alt_iff, List.mem_append, ihr hus, ihs hvs]
  | times r lo hi ih =>
    cases hi with
    | none => cases h
    | some hi =>
      obtain ⟨us, hus, rfl⟩ := Option.map_eq_some_iff.mp h
      rw [fits_times_iff, List.mem_flatMap]
      have hn : ∀ n, n ∈ List.range' lo (hi + 1 - lo) ↔ lo ≤ n ∧ within n (some hi) = true := by
        intro n
        rw [List.mem_range'_1]
        show _ ↔ lo ≤ n ∧ decide (n ≤ hi) = true
        rw [decide_eq_true_iff]
        omega
      simp only [hn, mem_power_iff (ih hus), and_assoc]

end Regex

/-! ## The words of a pattern -/

namespace Pattern

/-- all mnemonics that a pattern fits, if it can be written out -/
def words? (p : Pattern) : Option (List String) :=
  ((p.expression.trimmed true true).regular?.bind Regex.words?).map fun ws => ws.map String.ofList

theorem fits_iff_mem {p : Pattern} {ws : List String} (h : p.words? = some ws) (mnemonic : String) :
    p.fits mnemonic = true ↔ mnemonic ∈ ws := by
  obtain ⟨us, hus, rfl⟩ := Option.map_eq_some_iff.mp h
  obtain ⟨r, hr, hus⟩ := Option.bind_eq_some_iff.mp hus
  rw [Pattern.fits, Expression.fits_iff hr, Regex.fits_iff_mem hus, List.mem_map]
  constructor
  · intro hm
    exact ⟨mnemonic.toList, hm, String.ofList_toList⟩
  · rintro ⟨u, hu, rfl⟩
    rwa [String.toList_ofList]

end Pattern

end MacroFusion
