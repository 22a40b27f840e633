import Mathlib.Algebra.Order.Ring.Nat
import MacroFusion.Binary64.Basic

/-!
# Range: which whole numbers stay finite

A whole number is rounded to a mantissa of 53 bits.  It leaves the range at the top only, and not just
from `2^1024` on: in the middle between the greatest number of the format, `(2^53 - 1) · 2^971`, and
`2^1024` the tie already goes up, because the greatest mantissa is odd.

* `binaryExponent_one`    the leading exponent of a whole number is its binary logarithm;
* `roundDiv_eq_iff`       when a quotient below an even number is rounded up to it;
* `isFinite_ofInt_iff`    a whole number is finite just below `overflow`.
-/

namespace MacroFusion.Binary64

/-- the least whole number that is rounded out of the range -/
def overflow : Nat := 2 ^ 1024 - 2 ^ 970

theorem scaleNum_of_nonneg (b num k : Nat) : scaleNum b num (k : Int) = num * b ^ k := rfl

theorem scaleNum_of_nonpos (b num k : Nat) : scaleNum b num (-(k : Int)) = num := by
  have h : (-(k : Int)).toNat = 0 := by omega
  show num * b ^ (-(k : Int)).toNat = num
  rw [h, Nat.pow_zero, Nat.mul_one]

theorem scaleDen_of_nonneg (b den k : Nat) : scaleDen b den (k : Int) = den :=
  scaleNum_of_nonpos b den k

theorem scaleDen_one_of_nonpos (b k : Nat) : scaleDen b 1 (-(k : Int)) = b ^ k := by
  show 1 * b ^ (-(-(k : Int))).toNat = b ^ k
  rw [Int.neg_neg, Int.toNat_natCast, Nat.one_mul]

theorem binaryExponent_one {num : Nat} (h : num ≠ 0) : binaryExponent num 1 = num.log2 := by
  have h1 : Nat.log2 1 = 0 := by decide
  unfold binaryExponent
  rw [h1]
  show (if scaleNum 2 1 ((num.log2 : Int) - (0 : Nat)) ≤ scaleDen 2 num ((num.log2 : Int) - (0 : Nat))
    then (num.log2 : Int) - (0 : Nat) else _) = _
  have e : (num.log2 : Int) - (0 : Nat) = num.log2 := by omega
  rw [e, scaleNum_of_nonneg, scaleDen_of_nonneg, Nat.one_mul, if_pos (Nat.log2_self_le h)]

theorem lastPlace_natCast (k : Nat) : lastPlace (k : Int) = k - 52 := by
  unfold lastPlace
  omega

/-! ## Rounding up to the next power of two -/

/-- A quotient below an even number `k` becomes `k` from half a unit below it on. -/
theorem roundDiv_eq_iff {num half k : Nat} (hh : 0 < half) (hk : k % 2 = 0)
    (hlt : num < k * (2 * half)) :
    roundDiv num (2 * half) = k ↔ k * (2 * half) ≤ num + half := by
  have hdm : 2 * half * (num / (2 * half)) + num % (2 * half) = num := Nat.div_add_mod _ _
  have hr : num % (2 * half) < 2 * half := Nat.mod_lt _ (by omega)
  have hq : num / (2 * half) < k := by
    rw [Nat.div_lt_iff_lt_mul (by omega)]
    exact hlt
  unfold roundDiv
  generalize num / (2 * half) = q at *
  generalize num % (2 * half) = r at *
  by_cases e : q + 1 = k
  · -- the last unit below `k`: it is odd, so that a tie goes up
    have hodd : q % 2 ≠ 0 := by omega
    have hkq : k * (2 * half) = 2 * half * q + 2 * half := by
      rw [← e, Nat.mul_comm, Nat.mul_add, Nat.mul_one]
    rw [hkq]
    show (if 2 * r < 2 * half then q else if 2 * half < 2 * r then q + 1
      else if q % 2 = 0 then q else q + 1) = k ↔ _
    rw [if_neg hodd, ite_self]
    split <;> omega
  · -- lower down neither side holds
    have hle : 2 * half * (q + 2) ≤ 2 * half * k := Nat.mul_le_mul_left _ (by omega)
    rw [Nat.mul_add, Nat.mul_comm (2 * half) k] at hle
    show (if 2 * r < 2 * half then q else if 2 * half < 2 * r then q + 1
      else if q % 2 = 0 then q else q + 1) = k ↔ _
    constructor
    · intro he
      repeat' split at he
      all_goals omega
    · intro he
      omega

-- the powers below are too large to be evaluated: their exponents are compared, not their values
theorem two_pow_of_eq_succ {k l : Nat} (h : k = l + 1) : 2 ^ k = 2 * 2 ^ l := by
  rw [h, Nat.pow_succ']

theorem two_pow_of_eq_add {k l m : Nat} (h : k = l + m) : 2 ^ k = 2 ^ l * 2 ^ m := by
  rw [h, Nat.pow_add]

theorem log2_lt_iff {num : Nat} (h : num ≠ 0) (k : Nat) : num.log2 < k ↔ num < 2 ^ k :=
  Nat.log2_lt h

/-- the mantissa of a whole number with the leading exponent 1023, the last one in range -/
theorem roundDiv_top_iff {num : Nat} (h : num < 2 ^ 1024) :
    roundDiv num (2 ^ 971) = 2 ^ 53 ↔ overflow ≤ num := by
  have h971 : 2 ^ 971 = 2 * 2 ^ 970 := two_pow_of_eq_succ (k := 971) (l := 970) rfl
  have h1024 : 2 ^ 53 * (2 * 2 ^ 970) = 2 ^ 1024 := by
    rw [← h971]
    exact (two_pow_of_eq_add (k := 1024) (l := 53) (m := 971) rfl).symm
  rw [h971, roundDiv_eq_iff (pow_pos Nat.two_pos 970) (by decide) (by rw [h1024]; exact h), h1024]
  unfold overflow
  omega

theorem overflow_le : 2 ^ 1023 ≤ overflow ∧ overflow ≤ 2 ^ 1024 := by
  have h : 2 ^ 970 ≤ 2 ^ 1023 := by apply Nat.pow_le_pow_right <;> decide
  have h' : 2 ^ 1024 = 2 * 2 ^ 1023 := two_pow_of_eq_succ (k := 1024) (l := 1023) rfl
  unfold overflow
  omega

theorem lt_overflow_of_le {n k : Nat} (hk : k < 1023) (hn : n ≤ 2 ^ k) : n < overflow := by
  have hpow : 2 ^ k < 2 ^ 1023 := by
    apply Nat.pow_lt_pow_right
    · decide
    · exact hk
  have htop := overflow_le
  omega

/-! ## Finite numbers -/

theorem isFinite_of_place_iff (negative : Bool) (mantissa : Nat) (place : Int) :
    (if 971 < place then infinite negative else finite negative mantissa place).isFinite = true
      ↔ place ≤ 971 := by
  by_cases h : 971 < place
  · rw [if_pos h]
    exact iff_of_false Bool.false_ne_true (Int.not_le.mpr h)
  · rw [if_neg h]
    exact iff_of_true rfl (Int.not_lt.mp h)

/-- What decides is the last place, which a full mantissa moves up by one. -/
theorem isFinite_ofRatio_iff {num den : Nat} {place : Int} (negative : Bool) (h : num ≠ 0)
    (hp : lastPlace (binaryExponent num den) = place) :
    (ofRatio negative num den).isFinite = true
      ↔ (if roundDiv (scaleNum 2 num (-place)) (scaleDen 2 den (-place)) = 2 ^ 53 then place + 1
        else place) ≤ 971 := by
  unfold ofRatio
  rw [if_neg h, hp]
  dsimp only
  by_cases hm : roundDiv (scaleNum 2 num (-place)) (scaleDen 2 den (-place)) = Nat.pow 2 53
  · have hm' : roundDiv (scaleNum 2 num (-place)) (scaleDen 2 den (-place)) = 2 ^ 53 := hm
    rw [if_pos hm, if_pos hm']
    exact isFinite_of_place_iff negative _ _
  · have hm' : ¬ roundDiv (scaleNum 2 num (-place)) (scaleDen 2 den (-place)) = 2 ^ 53 := hm
    rw [if_neg hm, if_neg hm']
    exact isFinite_of_place_iff negative _ _

/-- For a whole number this is the leading exponent, and at the top also whether the mantissa is
full. -/
theorem isFinite_ofRatio_one_iff {num : Nat} (negative : Bool) (h : num ≠ 0) :
    (ofRatio negative num 1).isFinite = true
      ↔ num.log2 < 1023 ∨ num.log2 = 1023 ∧ roundDiv num (2 ^ 971) ≠ 2 ^ 53 := by
  have hp : lastPlace (binaryExponent num 1) = (num.log2 : Int) - 52 := by
    rw [binaryExponent_one h, lastPlace_natCast]
  rw [isFinite_ofRatio_iff negative h hp]
  by_cases htop : num.log2 = 1023
  · have e : -((num.log2 : Int) - 52) = -((971 : Nat) : Int) := by omega
    rw [e, scaleNum_of_nonpos, scaleDen_one_of_nonpos, htop]
    by_cases hm : roundDiv num (2 ^ 971) = 2 ^ 53
    · rw [if_pos hm]
      exact iff_of_false (by decide) fun hc => hc.elim (Nat.lt_irrefl _) fun hc => hc.2 hm
    · rw [if_neg hm]
      exact iff_of_true (by decide) (Or.inr ⟨rfl, hm⟩)
  · -- away from the top a full mantissa makes no difference
    have hcut : (num.log2 < 1023 ∨ num.log2 = 1023 ∧ roundDiv num (2 ^ 971) ≠ 2 ^ 53)
        ↔ num.log2 < 1023 := ⟨fun hc => hc.resolve_right fun hc => htop hc.1, Or.inl⟩
    rw [hcut]
    split <;> omega

/-- **The range of whole numbers.** -/
theorem isFinite_ofInt_iff (n : Int) : (ofInt n).isFinite = true ↔ n.natAbs < overflow := by
  have ho := overflow_le
  unfold ofInt
  by_cases h : n.natAbs = 0
  · have hpos : 0 < overflow := Nat.lt_of_lt_of_le (pow_pos Nat.two_pos 1023) ho.1
    rw [h]
    simp [ofRatio, isFinite, hpos]
  · rw [isFinite_ofRatio_one_iff _ h]
    have hlow : n.natAbs.log2 < 1023 ↔ n.natAbs < 2 ^ 1023 := log2_lt_iff h 1023
    have hhigh : n.natAbs.log2 < 1024 ↔ n.natAbs < 2 ^ 1024 := log2_lt_iff h 1024
    by_cases htop : n.natAbs < 2 ^ 1024
    · rw [Ne, roundDiv_top_iff htop]
      omega
    · omega

end MacroFusion.Binary64
