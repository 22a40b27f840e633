import MacroFusion.Expression.Fits
import MacroFusion.Regex.Meaning

/-!
# What a trial finds

The main statement is `fits_iff`: an expression that says no more than a regular expression fits just
the texts of that.  A trial of such an expression explores it: what it finds lies at the end of a
text that fits, and when it gives up, it has been at the end of every such text.
-/

namespace MacroFusion.Expression

open Regex (CharSet Fits within Copies)

/-! ## Places in a text -/

/-- whether the characters between two places of a text fit -/
def Between (r : Regex) (text : List Char) (i j : Nat) : Prop :=
  ∃ u w v, text = u ++ w ++ v ∧ u.length = i ∧ i + w.length = j ∧ Fits r w

theorem Between.bounds {r : Regex} {text : List Char} {i j : Nat} (h : Between r text i j) :
    i ≤ j ∧ j ≤ text.length := by
  obtain ⟨u, w, v, rfl, rfl, rfl, _⟩ := h
  simp only [List.length_append]
  omega

theorem between_epsilon {text : List Char} {i j : Nat} :
    Between .epsilon text i j ↔ j = i ∧ i ≤ text.length := by
  constructor
  · rintro ⟨u, w, v, rfl, rfl, rfl, hw⟩
    rw [Regex.fits_epsilon_iff.1 hw]
    simp
  · rintro ⟨rfl, h⟩
    exact ⟨text.take j, [], text.drop j, by simp, by simp [h], rfl, .epsilon⟩

theorem between_one {set : CharSet} {text : List Char} {i j : Nat} :
    Between (.one set) text i j ↔ j = i + 1 ∧ text[i]?.any set.holds = true := by
  constructor
  · rintro ⟨u, w, v, rfl, rfl, rfl, hw⟩
    obtain ⟨c, hc, rfl⟩ := Regex.fits_one_iff.1 hw
    refine ⟨rfl, ?_⟩
    rw [List.append_assoc, List.getElem?_append_right (Nat.le_refl _), Nat.sub_self]
    exact hc
  · rintro ⟨rfl, h⟩
    cases hc : text[i]? with
    | none => rw [hc] at h; cases h
    | some c =>
      rw [hc] at h
      obtain ⟨hi, hget⟩ := List.getElem?_eq_some_iff.1 hc
      refine ⟨text.take i, [c], text.drop (i + 1), ?_, ?_, rfl, .one h⟩
      · rw [← hget, List.append_assoc, List.singleton_append, ← List.drop_eq_getElem_cons hi,
          List.take_append_drop]
      · rw [List.length_take]
        omega

theorem between_seq {r s : Regex} {text : List Char} {i j : Nat} :
    Between (.seq r s) text i j ↔ ∃ k, Between r text i k ∧ Between s text k j := by
  constructor
  · rintro ⟨u, w, v, rfl, rfl, rfl, hw⟩
    obtain ⟨x, y, rfl, hx, hy⟩ := Regex.fits_seq_iff.1 hw
    refine ⟨u.length + x.length, ⟨u, x, y ++ v, by simp, rfl, rfl, hx⟩,
      ⟨u ++ x, y, v, by simp, by simp, ?_, hy⟩⟩
    rw [List.length_append]
    omega
  · rintro ⟨k, ⟨u, x, v, ht, rfl, rfl, hx⟩, ⟨u', y, v', ht', hu', rfl, hy⟩⟩
    have h : u ++ x = u' := by
      refine (List.append_inj (ht.symm.trans (ht'.trans (List.append_assoc ..))) ?_).1
      rw [List.length_append, hu']
    refine ⟨u, x ++ y, v', ?_, rfl, ?_, .seq hx hy⟩
    · rw [ht', ← h]
      simp
    · rw [List.length_append]
      omega

theorem between_alt {r s : Regex} {text : List Char} {i j : Nat} :
    Between (.alt r s) text i j ↔ Between r text i j ∨ Between s text i j := by
  constructor
  · rintro ⟨u, w, v, ht, hi, hj, hw⟩
    rcases Regex.fits_alt_iff.1 hw with hw | hw
    · exact .inl ⟨u, w, v, ht, hi, hj, hw⟩
    · exact .inr ⟨u, w, v, ht, hi, hj, hw⟩
  · rintro (⟨u, w, v, ht, hi, hj, hw⟩ | ⟨u, w, v, ht, hi, hj, hw⟩)
    · exact ⟨u, w, v, ht, hi, hj, .left hw⟩
    · exact ⟨u, w, v, ht, hi, hj, .right hw⟩

/-- from one place to another in so many steps of a relation -/
def Hops (R : Nat → Nat → Prop) : Nat → Nat → Nat → Prop
  | 0, i, j => j = i
  | n + 1, i, j => ∃ k, R i k ∧ Hops R n k j

/-- copies of a part are as many steps -/
theorem between_copies {r : Regex} {text : List Char} {n i j : Nat} :
    (∃ u w v, text = u ++ w ++ v ∧ u.length = i ∧ i + w.length = j ∧ Copies r n w) ↔
      i ≤ text.length ∧ Hops (Between r text) n i j := by
  induction n generalizing i with
  | zero =>
    constructor
    · rintro ⟨u, w, v, rfl, rfl, rfl, hw⟩
      rw [show w = [] from hw]
      exact ⟨by simp, rfl⟩
    · rintro ⟨h, rfl⟩
      exact ⟨text.take j, [], text.drop j, by simp, by simp [h], rfl, rfl⟩
  | succ n ih =>
    constructor
    · rintro ⟨u, w, v, rfl, rfl, rfl, x, y, rfl, hx, hy⟩
      refine ⟨by simp, u.length + x.length, ⟨u, x, y ++ v, by simp, rfl, rfl, hx⟩,
        (ih.1 ⟨u ++ x, y, v, by simp, by simp, ?_, hy⟩).2⟩
      rw [List.length_append]
      omega
    · rintro ⟨hi, k, hk, hops⟩
      obtain ⟨u', y, v', ht', hu', rfl, hy⟩ := ih.2 ⟨hk.bounds.2, hops⟩
      obtain ⟨u, x, v, ht, rfl, rfl, hx⟩ := hk
      have h : u ++ x = u' := by
        refine (List.append_inj (ht.symm.trans (ht'.trans (List.append_assoc ..))) ?_).1
        rw [List.length_append, hu']
      refine ⟨u, x ++ y, v', ?_, rfl, ?_, x, y, rfl, hx, hy⟩
      · rw [ht', ← h]
        simp
      · rw [List.length_append]
        omega

theorem between_times {r : Regex} {lo : Nat} {hi : Option Nat} {text : List Char} {i j : Nat} :
    Between (.times r lo hi) text i j ↔
      i ≤ text.length ∧ ∃ n, lo ≤ n ∧ within n hi = true ∧ Hops (Between r text) n i j := by
  constructor
  · rintro ⟨u, w, v, ht, hi, hj, hw⟩
    obtain ⟨n, hlo, hn, hc⟩ := Regex.fits_times_iff.1 hw
    obtain ⟨hi, hops⟩ := between_copies.1 ⟨u, w, v, ht, hi, hj, hc⟩
    exact ⟨hi, n, hlo, hn, hops⟩
  · rintro ⟨hi, n, hlo, hn, hops⟩
    obtain ⟨u, w, v, ht, hi, hj, hc⟩ := between_copies.2 ⟨hi, hops⟩
    exact ⟨u, w, v, ht, hi, hj, Regex.fits_times_iff.2 ⟨n, hlo, hn, hc⟩⟩

/-! ## Exploring -/

/-- a way of trying that follows a relation between places: what it finds is found by the rest at a
related place, and when it refuses, the rest has refused at every related place -/
structure Explores (size : Nat) (R : Nat → Nat → Prop) (step : Rest → Rest) : Prop where
  found : ∀ {rest : Rest} {s t : Spot} {n m : Nat}, s.index ≤ size → step rest s n = .found t m →
    ∃ u k, R s.index u.index ∧ rest u k = .found t m
  refused : ∀ {rest : Rest} {s : Spot} {n m : Nat}, s.index ≤ size → step rest s n = .refused m →
    ∀ j, R s.index j → ∃ u k l, u.index = j ∧ rest u k = .refused l

theorem spend_found {limited : Bool} {n m : Nat} {go : Nat → Verdict} {t : Spot}
    (h : spend limited n go = .found t m) : ∃ k, go k = .found t m := by
  unfold spend at h
  split at h
  · cases h
  · exact ⟨_, h⟩

theorem spend_refused {limited : Bool} {n m : Nat} {go : Nat → Verdict}
    (h : spend limited n go = .refused m) : ∃ k, go k = .refused m := by
  unfold spend at h
  split at h
  · cases h
  · exact ⟨_, h⟩

theorem orElse_found {v : Verdict} {next : Nat → Verdict} {t : Spot} {m : Nat}
    (h : v.orElse next = .found t m) :
    v = .found t m ∨ ∃ k, v = .refused k ∧ next k = .found t m := by
  cases v with
  | found s n => exact .inl h
  | refused n => exact .inr ⟨n, rfl, h⟩
  | spent => cases h

theorem orElse_refused {v : Verdict} {next : Nat → Verdict} {m : Nat}
    (h : v.orElse next = .refused m) : ∃ k, v = .refused k ∧ next k = .refused m := by
  cases v with
  | found s n => cases h
  | refused n => exact ⟨n, rfl, h⟩
  | spent => cases h

/-! ## Characters, repeated -/

theorem runLength_le (text : Array Char) (set : CharSet) (i limit : Nat) :
    runLength text set i limit ≤ limit := by
  induction limit generalizing i with
  | zero => exact Nat.le_refl 0
  | succ limit ih =>
    rw [runLength]
    split
    · exact Nat.succ_le_succ (ih (i + 1))
    · exact Nat.zero_le _

/-- the characters of a run are in the set -/
theorem hops_of_le_runLength {text : Array Char} {set : CharSet} {i limit c : Nat}
    (h : c ≤ runLength text set i limit) : Hops (Between (.one set) text.toList) c i (i + c) := by
  induction limit generalizing i c with
  | zero =>
    obtain rfl : c = 0 := Nat.le_zero.1 h
    rfl
  | succ limit ih =>
    cases c with
    | zero => rfl
    | succ c =>
      rw [runLength] at h
      split at h
      · rename_i hc
        refine ⟨i + 1, between_one.2 ⟨rfl, ?_⟩, ?_⟩
        · rw [Array.getElem?_toList]
          exact hc
        · have := ih (i := i + 1) (Nat.le_of_succ_le_succ h)
          rwa [show i + 1 + c = i + (c + 1) by omega] at this
      · omega

/-- no longer row of characters of the set begins where a run does -/
theorem le_runLength_of_hops {text : Array Char} {set : CharSet} {i j limit c : Nat}
    (hops : Hops (Between (.one set) text.toList) c i j) (h : c ≤ limit) :
    j = i + c ∧ c ≤ runLength text set i limit := by
  induction limit generalizing i c with
  | zero =>
    obtain rfl : c = 0 := Nat.le_zero.1 h
    exact ⟨hops, Nat.le_refl 0⟩
  | succ limit ih =>
    cases c with
    | zero => exact ⟨hops, Nat.zero_le _⟩
    | succ c =>
      obtain ⟨k, hk, hops⟩ := hops
      obtain ⟨rfl, hc⟩ := between_one.1 hk
      obtain ⟨rfl, hle⟩ := ih hops (Nat.le_of_succ_le_succ h)
      rw [Array.getElem?_toList] at hc
      rw [runLength, if_pos hc]
      omega

theorem mostFirst_found {limited : Bool} {rest : Rest} {s t : Spot} {lo more n m : Nat}
    (h : mostFirst limited rest s lo more n = .found t m) :
    ∃ c k, lo ≤ c ∧ c ≤ lo + more ∧ rest (s.move c) k = .found t m := by
  induction more generalizing n with
  | zero => exact ⟨lo, n, Nat.le_refl _, Nat.le_refl _, h⟩
  | succ more ih =>
    obtain ⟨k, h⟩ := spend_found h
    rcases orElse_found h with h | ⟨k, _, h⟩
    · exact ⟨_, k, by omega, by omega, h⟩
    · obtain ⟨c, k, hlo, hhi, h⟩ := ih h
      exact ⟨c, k, hlo, by omega, h⟩

theorem mostFirst_refused {limited : Bool} {rest : Rest} {s : Spot} {lo more n m c : Nat}
    (h : mostFirst limited rest s lo more n = .refused m) (hlo : lo ≤ c) (hhi : c ≤ lo + more) :
    ∃ k l, rest (s.move c) k = .refused l := by
  induction more generalizing n with
  | zero =>
    obtain rfl : c = lo := by omega
    exact ⟨n, m, h⟩
  | succ more ih =>
    obtain ⟨k, h⟩ := spend_refused h
    obtain ⟨l, h₁, h₂⟩ := orElse_refused h
    by_cases hc : c = lo + (more + 1)
    · subst hc
      exact ⟨k, l, h₁⟩
    · exact ih h₂ (by omega)

theorem leastFirst_found {limited : Bool} {rest : Rest} {s t : Spot} {lo more n m : Nat}
    (h : leastFirst limited rest s lo more n = .found t m) :
    ∃ c k, lo ≤ c ∧ c ≤ lo + more ∧ rest (s.move c) k = .found t m := by
  induction more generalizing n lo with
  | zero => exact ⟨lo, n, Nat.le_refl _, Nat.le_refl _, h⟩
  | succ more ih =>
    obtain ⟨k, h⟩ := spend_found h
    rcases orElse_found h with h | ⟨k, _, h⟩
    · exact ⟨lo, k, by omega, by omega, h⟩
    · obtain ⟨c, k, hlo, hhi, h⟩ := ih h
      exact ⟨c, k, by omega, by omega, h⟩

theorem leastFirst_refused {limited : Bool} {rest : Rest} {s : Spot} {lo more n m c : Nat}
    (h : leastFirst limited rest s lo more n = .refused m) (hlo : lo ≤ c) (hhi : c ≤ lo + more) :
    ∃ k l, rest (s.move c) k = .refused l := by
  induction more generalizing n lo with
  | zero =>
    obtain rfl : c = lo := by omega
    exact ⟨n, m, h⟩
  | succ more ih =>
    obtain ⟨k, h⟩ := spend_refused h
    obtain ⟨l, h₁, h₂⟩ := orElse_refused h
    by_cases hc : c = lo
    · subst hc
      exact ⟨k, l, h₁⟩
    · exact ih h₂ (by omega) (by omega)

/-- as many characters as are left and allowed are within the bound -/
theorem within_of_le_limit {hi : Option Nat} {room c : Nat} (h : c ≤ (hi.getD room).min room) :
    within c hi = true := by
  cases hi with
  | none => rfl
  | some hi =>
    simp only [Option.getD_some, within, decide_eq_true_eq] at *
    exact Nat.le_trans h (Nat.min_le_left ..)

theorem le_limit_of_within {hi : Option Nat} {room c : Nat} (h : within c hi = true)
    (hc : c ≤ room) : c ≤ (hi.getD room).min room := by
  cases hi with
  | none => simpa using hc
  | some hi =>
    simp only [Option.getD_some, within, decide_eq_true_eq] at *
    exact Nat.le_min.2 ⟨h, hc⟩

theorem hops_one_length {set : CharSet} {text : List Char} {c i j : Nat} (hi : i ≤ text.length)
    (h : Hops (Between (.one set) text) c i j) : i + c ≤ text.length := by
  induction c generalizing i with
  | zero => exact hi
  | succ c ih =>
    obtain ⟨k, hk, h⟩ := h
    have := ih hk.bounds.2 h
    obtain ⟨rfl, _⟩ := between_one.1 hk
    omega

theorem explores_characters (limited : Bool) (text : Array Char) (set : CharSet) (lo : Nat)
    (hi : Option Nat) {manner : Manner} (hm : manner ≠ .possessive) :
    Explores text.size (Between (.times (.one set) lo hi) text.toList)
      (characters limited text set lo hi manner) where
  found := by
    intro rest s t n m hs h
    simp only [characters] at h
    split at h
    · cases h
    · rename_i hrun
      have key : ∃ c k, lo ≤ c ∧ c ≤ runLength text set s.index
          ((hi.getD (text.size - s.index)).min (text.size - s.index)) ∧
          rest (s.move c) k = .found t m := by
        cases manner with
        | greedy =>
          obtain ⟨c, k, hlo, hhi, h⟩ := mostFirst_found h
          exact ⟨c, k, hlo, by omega, h⟩
        | lazy =>
          obtain ⟨c, k, hlo, hhi, h⟩ := leastFirst_found h
          exact ⟨c, k, hlo, by omega, h⟩
        | possessive => exact absurd rfl hm
      obtain ⟨c, k, hlo, hc, h⟩ := key
      refine ⟨s.move c, k, between_times.2 ⟨by simpa using hs, c, hlo, ?_, ?_⟩, h⟩
      · exact within_of_le_limit (Nat.le_trans hc (runLength_le ..))
      · exact hops_of_le_runLength hc
  refused := by
    intro rest s n m hs h j hj
    obtain ⟨_, c, hlo, hc, hops⟩ := between_times.1 hj
    have hroom : s.index + c ≤ text.size := by
      simpa using hops_one_length (by simpa using hs) hops
    obtain ⟨rfl, hle⟩ := le_runLength_of_hops hops
      (le_limit_of_within hc (Nat.le_sub_of_add_le' hroom))
    simp only [characters] at h
    split at h
    · omega
    · have key : ∃ k l, rest (s.move c) k = .refused l := by
        cases manner with
        | greedy => exact mostFirst_refused h hlo (by omega)
        | lazy => exact leastFirst_refused h hlo (by omega)
        | possessive => exact absurd rfl hm
      obtain ⟨k, l, h⟩ := key
      exact ⟨s.move c, k, l, rfl, h⟩

/-! ## Rounds -/

/-- steps of a relation, of which those after the first `lo` move on -/
def Advance (R : Nat → Nat → Prop) : Nat → Nat → Nat → Nat → Prop
  | _, 0, i, j => j = i
  | 0, n + 1, i, j => ∃ k, R i k ∧ i < k ∧ Advance R 0 n k j
  | lo + 1, n + 1, i, j => ∃ k, R i k ∧ Advance R lo n k j

/-- steps that stay in place can be left out -/
theorem advance_of_hops {R : Nat → Nat → Prop} (hR : ∀ i j, R i j → i ≤ j) {n lo i j : Nat}
    (h : Hops R n i j) (hlo : lo ≤ n) : ∃ m, lo ≤ m ∧ m ≤ n ∧ Advance R lo m i j := by
  induction n generalizing lo i with
  | zero =>
    obtain rfl : lo = 0 := by omega
    exact ⟨0, Nat.le_refl _, Nat.le_refl _, h⟩
  | succ n ih =>
    obtain ⟨k, hk, h⟩ := h
    cases lo with
    | zero =>
      obtain ⟨m, _, hm, hadv⟩ := ih h (Nat.zero_le n)
      by_cases hik : i < k
      · exact ⟨m + 1, Nat.zero_le _, by omega, k, hk, hik, hadv⟩
      · obtain rfl : k = i := by have := hR i k hk; omega
        exact ⟨m, Nat.zero_le _, by omega, hadv⟩
    | succ lo =>
      obtain ⟨m, hlo', hm, hadv⟩ := ih h (Nat.le_of_succ_le_succ hlo)
      exact ⟨m + 1, by omega, by omega, k, hk, hadv⟩

theorem rounds_found {size : Nat} {R : Nat → Nat → Prop} {step : Rest → Rest}
    (hstep : Explores size R step) (hR : ∀ i j, R i j → i ≤ j ∧ j ≤ size) {limited lazy : Bool}
    {rest : Rest} {budget lo : Nat} {hi last : Option Nat} {s t : Spot} {n m : Nat}
    (hs : s.index ≤ size) (h : rounds limited lazy step rest budget lo hi last s n = .found t m) :
    ∃ c u k, lo ≤ c ∧ within c hi = true ∧ Hops R c s.index u.index ∧ rest u k = .found t m := by
  induction budget generalizing lo hi last s n m with
  | zero => cases h
  | succ budget ih =>
    obtain ⟨n, h⟩ := spend_found h
    have stop {n : Nat} (hlo : ¬ 0 < lo) (h : rest s n = .found t m) :
        ∃ c u k, lo ≤ c ∧ within c hi = true ∧ Hops R c s.index u.index ∧
          rest u k = .found t m :=
      ⟨0, s, n, by omega, Regex.within_zero hi, rfl, h⟩
    have more {l : Nat} {last : Option Nat} {n : Nat} (hne : hi ≠ some 0) (hl : lo ≤ l + 1)
        (h : step (rounds limited lazy step rest budget l (hi.map (· - 1)) last) s n
          = .found t m) :
        ∃ c u k, lo ≤ c ∧ within c hi = true ∧ Hops R c s.index u.index ∧
          rest u k = .found t m := by
      obtain ⟨u, k, hu, h⟩ := hstep.found hs h
      obtain ⟨c, v, k, hc, hw, hops, h⟩ := ih (hR _ _ hu).2 h
      exact ⟨c + 1, v, k, by omega, Regex.within_succ_iff.2 ⟨hne, hw⟩, ⟨u.index, hu, hops⟩, h⟩
    split at h
    · split at h
      · cases h
      · rename_i hlo
        exact stop hlo h
    · rename_i hne
      split at h
      · exact more hne (by omega) h
      · rename_i hlo
        split at h
        · exact stop hlo h
        · simp only at h
          split at h
          · rcases orElse_found h with h | ⟨_, _, h⟩
            · exact stop hlo h
            · exact more hne (by omega) h
          · rcases orElse_found h with h | ⟨_, _, h⟩
            · exact more hne (by omega) h
            · exact stop hlo h

theorem rounds_refused {size : Nat} {R : Nat → Nat → Prop} {step : Rest → Rest}
    (hstep : Explores size R step) (hR : ∀ i j, R i j → i ≤ j ∧ j ≤ size) {limited lazy : Bool}
    {rest : Rest} {budget lo : Nat} {hi last : Option Nat} {s : Spot} {n m c j : Nat}
    (hs : s.index ≤ size) (hb : lo + (size - s.index) < budget)
    (h : rounds limited lazy step rest budget lo hi last s n = .refused m)
    (hc : lo ≤ c) (hw : within c hi = true) (hadv : Advance R lo c s.index j)
    (hlast : 0 < lo → last = none) (hmoved : 0 < c → last ≠ some s.index) :
    ∃ u k l, u.index = j ∧ rest u k = .refused l := by
  induction budget generalizing lo hi last s n m c with
  | zero => omega
  | succ budget ih =>
    obtain ⟨n, h⟩ := spend_refused h
    cases c with
    | zero =>
      obtain rfl : lo = 0 := by omega
      obtain rfl : j = s.index := hadv
      split at h
      · exact ⟨s, n, m, rfl, h⟩
      · simp only [Nat.lt_irrefl, ↓reduceIte] at h
        split at h
        · exact ⟨s, n, m, rfl, h⟩
        · split at h
          · obtain ⟨k, h, _⟩ := orElse_refused h
            exact ⟨s, n, k, rfl, h⟩
          · obtain ⟨k, _, h⟩ := orElse_refused h
            exact ⟨s, k, m, rfl, h⟩
    | succ c =>
      obtain ⟨hne, hw⟩ := Regex.within_succ_iff.1 hw
      rw [if_neg hne] at h
      cases lo with
      | succ lo =>
        obtain ⟨k, hk, hadv⟩ := hadv
        obtain rfl := hlast (Nat.succ_pos lo)
        rw [if_pos (Nat.succ_pos lo)] at h
        obtain ⟨u, n', l, rfl, h⟩ := hstep.refused hs h k hk
        have hb' := (hR _ _ hk).1
        exact ih (hR _ _ hk).2 (by omega) h (by omega) hw hadv (fun _ => rfl) (fun _ => nofun)
      | zero =>
        obtain ⟨k, hk, hlt, hadv⟩ := hadv
        rw [if_neg (Nat.lt_irrefl 0), if_neg (hmoved (Nat.succ_pos c))] at h
        have further {n m : Nat} (h : step (rounds limited lazy step rest budget 0
            (hi.map (· - 1)) (some s.index)) s n = .refused m) :
            ∃ u k l, u.index = j ∧ rest u k = .refused l := by
          obtain ⟨u, n', l, rfl, h⟩ := hstep.refused hs h k hk
          refine ih (hR _ _ hk).2 ?_ h (Nat.zero_le c) hw hadv (fun h => absurd h (Nat.lt_irrefl 0)) ?_
          · have := (hR _ _ hk).2
            omega
          · intro _ heq
            have := Option.some.inj heq
            omega
        split at h
        · obtain ⟨_, _, h⟩ := orElse_refused h
          exact further h
        · obtain ⟨_, h, _⟩ := orElse_refused h
          exact further h

theorem explores_rounds {text : Array Char} {r : Regex} {step : Rest → Rest}
    (hstep : Explores text.size (Between r text.toList) step) (limited lazy : Bool) (lo : Nat)
    (hi : Option Nat) :
    Explores text.size (Between (.times r lo hi) text.toList) fun rest s n =>
      rounds limited lazy step rest (lo + text.size + 3) lo hi none s n where
  found := by
    intro rest s t n m hs h
    obtain ⟨c, u, k, hc, hw, hops, h⟩ := rounds_found hstep (fun _ _ h => by
      simpa using h.bounds) hs h
    exact ⟨u, k, between_times.2 ⟨by simpa using hs, c, hc, hw, hops⟩, h⟩
  refused := by
    intro rest s n m hs h j hj
    obtain ⟨_, c, hc, hw, hops⟩ := between_times.1 hj
    obtain ⟨c', hc', hle, hadv⟩ := advance_of_hops (fun _ _ h => h.bounds.1) hops hc
    exact rounds_refused hstep (fun _ _ h => by simpa using h.bounds) hs (by omega) h hc'
      (Regex.within_of_le hle hw) hadv (fun _ => rfl) (fun _ => nofun)

/-! ## Expressions -/

theorem explores_trial (limited : Bool) (text : Array Char) {e : Expression} {r : Regex}
    (h : e.regular? = some r) :
    Explores text.size (Between r text.toList) (trial limited text e) := by
  induction e generalizing r with
  | nothing =>
    obtain rfl := Option.some.inj h
    exact {
      found := fun {_ s _ n _} hs h =>
        ⟨s, n, between_epsilon.2 ⟨rfl, by simpa using hs⟩, h⟩
      refused := fun {_ s n m} _ h j hj => ⟨s, n, m, (between_epsilon.1 hj).1.symm, h⟩ }
  | one set =>
    obtain rfl := Option.some.inj h
    constructor
    · intro rest s t n m _ h
      rw [trial] at h
      obtain ⟨k, h⟩ := spend_found h
      split at h
      · rename_i hc
        exact ⟨s.move 1, k, between_one.2 ⟨rfl, by rwa [Array.getElem?_toList]⟩, h⟩
      · cases h
    · intro rest s n m _ h j hj
      obtain ⟨rfl, hc⟩ := between_one.1 hj
      rw [Array.getElem?_toList] at hc
      rw [trial] at h
      obtain ⟨k, h⟩ := spend_refused h
      rw [if_pos hc] at h
      exact ⟨s.move 1, k, m, rfl, h⟩
  | seq e f ihe ihf =>
    rw [regular?, Option.bind_eq_some_iff] at h
    obtain ⟨re, he, h⟩ := h
    obtain ⟨rf, hf, rfl⟩ := Option.map_eq_some_iff.1 h
    constructor
    · intro rest s t n m hs h
      rw [trial] at h
      obtain ⟨u, k, hu, h⟩ := (ihe he).found hs h
      obtain ⟨v, k, hv, h⟩ := (ihf hf).found (by simpa using hu.bounds.2) h
      exact ⟨v, k, between_seq.2 ⟨u.index, hu, hv⟩, h⟩
    · intro rest s n m hs h j hj
      obtain ⟨k, hk, hj⟩ := between_seq.1 hj
      rw [trial] at h
      obtain ⟨u, _, _, rfl, h⟩ := (ihe he).refused hs h k hk
      exact (ihf hf).refused (by simpa using hk.bounds.2) h j hj
  | alt e f ihe ihf =>
    rw [regular?, Option.bind_eq_some_iff] at h
    obtain ⟨re, he, h⟩ := h
    obtain ⟨rf, hf, rfl⟩ := Option.map_eq_some_iff.1 h
    constructor
    · intro rest s t n m hs h
      rw [trial] at h
      rcases orElse_found h with h | ⟨_, _, h⟩
      · obtain ⟨u, k, hu, h⟩ := (ihe he).found hs h
        exact ⟨u, k, between_alt.2 (.inl hu), h⟩
      · obtain ⟨u, k, hu, h⟩ := (ihf hf).found hs h
        exact ⟨u, k, between_alt.2 (.inr hu), h⟩
    · intro rest s n m hs h j hj
      rw [trial] at h
      obtain ⟨_, h₁, h₂⟩ := orElse_refused h
      rcases between_alt.1 hj with hj | hj
      · exact (ihe he).refused hs h₁ j hj
      · exact (ihf hf).refused hs h₂ j hj
  | times e lo hi manner ih =>
    rw [regular?] at h
    split at h
    · cases h
    · rename_i hm
      obtain ⟨re, he, rfl⟩ := Option.map_eq_some_iff.1 h
      have hr := explores_rounds (ih he) limited
      have key : ∀ (rest : Rest) (s : Spot) (n : Nat),
          (∃ set, e = .one set ∧ trial limited text (.times e lo hi manner) rest s n
            = characters limited text set lo hi manner rest s n) ∨
          ∃ lazy, trial limited text (.times e lo hi manner) rest s n
            = rounds limited lazy (trial limited text e) rest (lo + text.size + 3) lo hi none s n := by
        intro rest s n
        cases e with
        | one set => exact .inl ⟨set, rfl, rfl⟩
        | _ =>
          cases manner with
          | greedy => exact .inr ⟨false, rfl⟩
          | lazy => exact .inr ⟨true, rfl⟩
          | possessive => exact absurd rfl hm
      constructor
      · intro rest s t n m hs ht
        rcases key rest s n with ⟨set, rfl, heq⟩ | ⟨lazy, heq⟩
        · obtain rfl := Option.some.inj he
          exact (explores_characters limited text set lo hi hm).found hs (heq ▸ ht)
        · exact (hr lazy lo hi).found hs (heq ▸ ht)
      · intro rest s n m hs ht j hj
        rcases key rest s n with ⟨set, rfl, heq⟩ | ⟨lazy, heq⟩
        · obtain rfl := Option.some.inj he
          exact (explores_characters limited text set lo hi hm).refused hs (heq ▸ ht) j hj
        · exact (hr lazy lo hi).refused hs (heq ▸ ht) j hj
  | group number e ih =>
    rw [regular?] at h
    constructor
    · intro rest s t n m hs ht
      rw [trial] at ht
      obtain ⟨u, k, hu, ht⟩ := (ih h).found (s := s.enter number) hs ht
      exact ⟨u.leave number, k, hu, ht⟩
    · intro rest s n m hs ht j hj
      rw [trial] at ht
      obtain ⟨u, k, l, hu, ht⟩ := (ih h).refused (s := s.enter number) hs ht j hj
      exact ⟨u.leave number, k, l, hu, ht⟩
  | _ => cases h

/-! ## Whole texts -/

/-- copies take at least as many times the characters that one of them takes -/
theorem le_length_of_copies {r : Regex} {least : Nat} (hr : ∀ {w}, Fits r w → least ≤ w.length)
    {n : Nat} {w : List Char} (h : Copies r n w) : least * n ≤ w.length := by
  induction n generalizing w with
  | zero => exact Nat.zero_le _
  | succ n ih =>
    obtain ⟨x, y, rfl, hx, hy⟩ := h
    have := hr hx
    have := ih hy
    rw [List.length_append, Nat.mul_succ]
    omega

/-- a text that fits is no shorter than the width says -/
theorem width_le_length {e : Expression} {r : Regex} (h : e.regular? = some r)
    (groups : List (Option Width)) {w : List Char} (hw : Fits r w) :
    (e.width groups).lo ≤ w.length := by
  induction e generalizing r w with
  | nothing => exact Nat.zero_le _
  | one set =>
    obtain rfl := Option.some.inj h
    obtain ⟨c, _, rfl⟩ := Regex.fits_one_iff.1 hw
    exact Nat.le_refl 1
  | seq e f ihe ihf =>
    rw [regular?, Option.bind_eq_some_iff] at h
    obtain ⟨re, he, h⟩ := h
    obtain ⟨rf, hf, rfl⟩ := Option.map_eq_some_iff.1 h
    obtain ⟨x, y, rfl, hx, hy⟩ := Regex.fits_seq_iff.1 hw
    rw [List.length_append]
    exact Nat.add_le_add (ihe he hx) (ihf hf hy)
  | alt e f ihe ihf =>
    rw [regular?, Option.bind_eq_some_iff] at h
    obtain ⟨re, he, h⟩ := h
    obtain ⟨rf, hf, rfl⟩ := Option.map_eq_some_iff.1 h
    rcases Regex.fits_alt_iff.1 hw with hw | hw
    · exact Nat.le_trans (Nat.min_le_left ..) (ihe he hw)
    · exact Nat.le_trans (Nat.min_le_right ..) (ihf hf hw)
  | times e lo hi manner ih =>
    rw [regular?] at h
    split at h
    · cases h
    · obtain ⟨re, he, rfl⟩ := Option.map_eq_some_iff.1 h
      obtain ⟨n, hlo, _, hc⟩ := Regex.fits_times_iff.1 hw
      exact Nat.le_trans (Nat.mul_le_mul_left _ hlo) (le_length_of_copies (ih he) hc)
  | group number e ih => exact ih h hw
  | _ => cases h

/-- from the start of a text to its end is the whole text -/
theorem between_whole {r : Regex} {text : List Char} :
    Between r text 0 text.length ↔ Fits r text := by
  constructor
  · rintro ⟨u, w, v, rfl, hu, hj, hw⟩
    obtain rfl := List.eq_nil_of_length_eq_zero hu
    obtain rfl : v = [] := by
      refine List.eq_nil_of_length_eq_zero ?_
      simp only [List.length_append, List.length_nil] at hj
      omega
    simpa using hw
  · exact fun h => ⟨[], text, [], by simp, rfl, Nat.zero_add _, h⟩

/-- a trial that finds a way has a text that fits -/
theorem fits_of_attempt_found {e : Expression} {r : Regex} (h : e.regular? = some r)
    {limited : Bool} {text : List Char} {steps m : Nat} {t : Spot}
    (ht : e.attempt limited text.toArray steps = .found t m) : Fits r text := by
  obtain ⟨u, k, hu, hend⟩ := (explores_trial limited text.toArray h).found (Nat.zero_le _) ht
  unfold atEnd at hend
  split at hend
  · rename_i hsize
    rw [hsize] at hu
    exact between_whole.1 (by simpa using hu)
  · cases hend

/-- a trial that gives up has a text that does not fit -/
theorem not_fits_of_attempt_refused {e : Expression} {r : Regex} (h : e.regular? = some r)
    {limited : Bool} {text : List Char} {steps m : Nat}
    (ht : e.attempt limited text.toArray steps = .refused m) : ¬ Fits r text := by
  intro hw
  obtain ⟨u, k, l, hu, hend⟩ := (explores_trial limited text.toArray h).refused (Nat.zero_le _) ht
    text.length (by simpa using between_whole.2 hw)
  unfold atEnd at hend
  rw [if_pos (by simpa using hu)] at hend
  cases hend

theorem fitsTrimmed_iff {e : Expression} {r : Regex} (h : e.regular? = some r)
    (text : List Char) : e.fitsTrimmed text = true ↔ Fits r text := by
  unfold fitsTrimmed
  split
  · rename_i hshort
    exact iff_of_false Bool.false_ne_true fun hw =>
      absurd (width_le_length h [] hw) (Nat.not_le_of_lt hshort)
  · split
    · rename_i ht
      exact iff_of_true rfl (fits_of_attempt_found h ht)
    · rename_i ht
      exact iff_of_false Bool.false_ne_true (not_fits_of_attempt_refused h ht)
    · rw [fitsAtLength, h]
      exact Regex.accepts_iff_fits r text

/-- an expression that says no more than a regular expression fits the texts of that -/
theorem fits_iff {e : Expression} {r : Regex} (h : (e.trimmed true true).regular? = some r)
    (text : List Char) : e.fits text = true ↔ Fits r text :=
  fitsTrimmed_iff h text

/-- two regular alternatives fit what one of them fits -/
theorem fits_alt {e f : Expression} {r s : Regex} (he : (e.trimmed true true).regular? = some r)
    (hf : (f.trimmed true true).regular? = some s) (text : List Char) :
    (Expression.alt e f).fits text = (e.fits text || f.fits text) := by
  have hef : ((Expression.alt e f).trimmed true true).regular? = some (.alt r s) := by
    rw [trimmed, regular?, he, hf]
    rfl
  rw [Bool.eq_iff_iff, Bool.or_eq_true, fits_iff hef, fits_iff he, fits_iff hf, Regex.fits_alt_iff]

end MacroFusion.Expression
