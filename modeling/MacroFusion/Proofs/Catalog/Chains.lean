import Mathlib.Algebra.Group.Action.Defs
import MacroFusion.Catalog.AppleM
import MacroFusion.Catalog.NeoverseV2
import MacroFusion.Proofs.Analysis.Balance
import MacroFusion.Proofs.Regex.Words

/-!
# Chains: how many pairs can share their instructions

Every rule that two neighbours satisfy fires, so an instruction can be the second half of one pair and
the first half of the next: `ADRP`, `ADD` and `B.EQ` are two pairs.  A row of pairs that share
instructions in this way is a CHAIN.  Where no chain has more than `h` pairs, and no pair is fused by two
rules, at most `h` of `h + 1` instructions can be saved.

* `chain`, `room`      how many pairs a chain can have that starts with a mnemonic, or an instruction;
* `ChainsWithin`       a table of rules without longer chains; a matter of the words of its patterns;
* `ChainsWithin.step`  a fused pair leaves less room for the rest of its chain, and any other step makes
                       room for `h` pairs at most;
* `ChainsWithin.length_scanMatches_le`   the bound for one function, from these steps;
* `appleM_chains`, `appleM_universal_chains`, `neoverseV2_chains`   the shipped tables;
* `saved_slots_bounded`   what an analysis under them can save at most;
* `saved_slots_reached`   no bound can be made smaller.
-/

namespace MacroFusion

namespace Rule

/-! ## The words of a rule -/

/-- the mnemonics of the two halves of a rule -/
structure Words where
  first : List String
  second : List String

def words? (r : Rule) : Option Words :=
  r.first.words?.bind fun first => r.second.words?.map fun second => { first, second }

theorem mem_words_of_fuses {r : Rule} {t : Words} (h : r.words? = some t) {a b : Instruction}
    (hf : r.fuses a b = true) : a.mnemonic ∈ t.first ∧ b.mnemonic ∈ t.second := by
  obtain ⟨first, hfirst, h⟩ := Option.bind_eq_some_iff.mp h
  obtain ⟨second, hsecond, rfl⟩ := Option.map_eq_some_iff.mp h
  rw [fuses, Bool.and_eq_true, Bool.and_eq_true] at hf
  exact ⟨(Pattern.fits_iff_mem hfirst _).mp hf.1.1, (Pattern.fits_iff_mem hsecond _).mp hf.1.2⟩

/-- no pair of mnemonics belongs to both -/
def Words.Apart (t u : Words) : Prop :=
  (∀ w ∈ t.first, w ∉ u.first) ∨ ∀ v ∈ t.second, v ∉ u.second

instance (t u : Words) : Decidable (t.Apart u) :=
  inferInstanceAs (Decidable ((∀ w ∈ t.first, w ∉ u.first) ∨ ∀ v ∈ t.second, v ∉ u.second))

theorem Words.Apart.not_both {t u : Words} (h : t.Apart u) {w v : String}
    (ht : w ∈ t.first ∧ v ∈ t.second) : ¬ (w ∈ u.first ∧ v ∈ u.second) := by
  rintro ⟨hw, hv⟩
  rcases h with h | h
  · exact h w ht.1 hw
  · exact h v ht.2 hv

/-! ## Chains -/

/-- how many pairs a chain can have that starts with the mnemonic, counted up to `n` -/
def chain (table : List Words) : Nat → String → Nat
  | 0, _ => 0
  | n + 1, w => ((table.filter (w ∈ ·.first)).flatMap (·.second)).foldr
      (fun v most => max (chain table n v + 1) most) 0

theorem chain_le (table : List Words) (n : Nat) (w : String) : chain table n w ≤ n := by
  induction n generalizing w with
  | zero => exact Nat.le_refl 0
  | succ n ih =>
    show List.foldr _ 0 ((table.filter (w ∈ ·.first)).flatMap (·.second)) ≤ n + 1
    generalize (table.filter (w ∈ ·.first)).flatMap (·.second) = vs
    induction vs with
    | nil => exact Nat.zero_le _
    | cons v vs ihv =>
      rw [List.foldr_cons]
      exact Nat.max_le.mpr ⟨Nat.succ_le_succ (ih v), ihv⟩

/-- the same for an instruction and a table of rules -/
def room (height : Nat) (rules : List Rule) (a : Instruction) : Nat :=
  chain (rules.filterMap words?) height a.mnemonic

theorem room_le (height : Nat) (rules : List Rule) (a : Instruction) : room height rules a ≤ height :=
  chain_le _ height a.mnemonic

/-- the rules list their mnemonics, no pair is fused by two of them, and no chain goes on after `height`
pairs -/
@[mk_iff] structure ChainsWithin (height : Nat) (rules : List Rule) : Prop where
  written : ∀ r ∈ rules, r.words?.isSome = true
  apart : (rules.filterMap words?).Pairwise Words.Apart
  descends : ∀ t ∈ rules.filterMap words?, ∀ w ∈ t.first, ∀ v ∈ t.second,
    chain (rules.filterMap words?) height v < chain (rules.filterMap words?) height w

instance (height : Nat) (rules : List Rule) : Decidable (ChainsWithin height rules) :=
  decidable_of_iff' _ (chainsWithin_iff height rules)

namespace ChainsWithin
variable {height : Nat} {rules : List Rule}

theorem room_lt_of_fuses (h : ChainsWithin height rules) {r : Rule} (hr : r ∈ rules)
    {a b : Instruction} (hf : r.fuses a b = true) : room height rules b < room height rules a := by
  obtain ⟨t, ht⟩ := Option.isSome_iff_exists.mp (h.written r hr)
  have hab := mem_words_of_fuses ht hf
  exact h.descends t (List.mem_filterMap.mpr ⟨r, hr, ht⟩) _ hab.1 _ hab.2

theorem pairwise_not_fuses (h : ChainsWithin height rules) (a b : Instruction) :
    rules.Pairwise fun r s => r.fuses a b = true → ¬ s.fuses a b = true := by
  have hp := List.pairwise_filterMap.mp h.apart
  refine hp.imp_of_mem ?_
  intro r s hr hs hrs hfr hfs
  obtain ⟨t, ht⟩ := Option.isSome_iff_exists.mp (h.written r hr)
  obtain ⟨u, hu⟩ := Option.isSome_iff_exists.mp (h.written s hs)
  exact (hrs t ht u hu).not_both (mem_words_of_fuses ht hfr) (mem_words_of_fuses hu hfs)

/-- at most one rule fires -/
theorem length_filter_fuses_le (h : ChainsWithin height rules) (a b : Instruction) :
    (rules.filter (·.fuses a b)).length ≤ 1 := by
  have hp := h.pairwise_not_fuses a b
  clear h
  induction rules with
  | nil => exact Nat.zero_le 1
  | cons r rules ih =>
    obtain ⟨hr, hp⟩ := List.pairwise_cons.mp hp
    by_cases hf : r.fuses a b = true
    · have hnone : rules.filter (·.fuses a b) = [] :=
        List.filter_eq_nil_iff.mpr fun s hs => hr s hs hf
      rw [List.filter_cons, if_pos hf, hnone]
      exact Nat.le_refl 1
    · rw [List.filter_cons, if_neg hf]
      exact ih hp

variable {c : Catalog}

/-- **One step of the scan**: what it saves is paid for by the room that is lost. -/
theorem step (h : ChainsWithin height c.rules) (function : String) (a b : Instruction) :
    (height + 1) * (c.matchesAt function a b).length + room height c.rules b
      ≤ height + room height c.rules a := by
  have hb := room_le height c.rules b
  have hone := h.length_filter_fuses_le a b
  rw [Catalog.matchesAt, List.length_map]
  cases hl : c.rules.filter (·.fuses a b) with
  | nil =>
    rw [List.length_nil, Nat.mul_zero]
    omega
  | cons r rest =>
    have hmem : r ∈ c.rules.filter (·.fuses a b) := hl ▸ List.mem_cons_self
    obtain ⟨hr, hf⟩ := List.mem_filter.mp hmem
    have hlt := h.room_lt_of_fuses hr hf
    have hlen : (r :: rest).length = 1 := by
      rw [hl] at hone
      exact Nat.le_antisymm hone (Nat.succ_pos _)
    rw [hlen, Nat.mul_one]
    omega

theorem length_scanMatches_cons_le (h : ChainsWithin height c.rules) (function : String)
    (a : Instruction) (is : List Instruction) :
    (height + 1) * (c.scanMatches function (a :: is)).length
      ≤ height * is.length + room height c.rules a := by
  induction is generalizing a with
  | nil => exact Nat.zero_le _
  | cons b is ih =>
    have hs := h.step function a b
    have hr := ih b
    show (height + 1) * (c.matchesAt function a b ++ c.scanMatches function (b :: is)).length ≤ _
    rw [List.length_append, Nat.mul_add, List.length_cons, Nat.mul_succ]
    omega

theorem length_scanMatches_le (h : ChainsWithin height c.rules) (function : String)
    (is : List Instruction) :
    (height + 1) * (c.scanMatches function is).length ≤ height * is.length := by
  cases is with
  | nil => exact Nat.zero_le _
  | cons a is =>
    have hc := h.length_scanMatches_cons_le function a is
    have hle := room_le height c.rules a
    rw [List.length_cons, Nat.mul_succ]
    omega

theorem length_flatMap_le (h : ChainsWithin height c.rules) (fs : List Function) :
    (height + 1) * (fs.flatMap fun f => c.scanMatches f.name f.instructions).length
      ≤ height * (fs.map fun f => f.instructions.length).sum :=
  Catalog.length_flatMap_scanMatches_le (fun f => h.length_scanMatches_le f.name f.instructions) fs

end ChainsWithin

/-! ## The shipped tables -/

theorem appleM_chains : ChainsWithin 2 Catalog.appleM.rules := by decide +kernel

theorem appleM_universal_chains : ChainsWithin 1 (Catalog.appleM.rulesIn .universal) := by
  decide +kernel

theorem neoverseV2_chains : ChainsWithin 1 Catalog.neoverseV2.rules := by decide +kernel

end Rule

/-- the rules of one category, on their own, find the pairs of that category -/
theorem Catalog.filter_category_scanMatches (c : Catalog) (category : Category) (function : String)
    (is : List Instruction) :
    (c.scanMatches function is).filter (·.category = category)
      = { c with rules := c.rulesIn category }.scanMatches function is :=
  c.filter_scanMatches (fun _ k => k = category) function is

/-! ## What an analysis can save -/

namespace Analysis

/-- **The slots that an analysis saves**: under `apple-m` at most two of three instructions, and by pairs
that every core fuses at most one of two; under `neoverse-v2` at most one of two. -/
theorem saved_slots_bounded (workers : Nat) (functions : List Function) (filter : Option String)
    (lowConfidence : Bool) (warnings : List String) :
    let total := ((select filter functions).map fun f => f.instructions.length).sum
    let apple := run .appleM workers functions filter lowConfidence warnings
    let neoverse := run .neoverseV2 workers functions filter lowConfidence warnings
    3 * (apple.universalMatches.length + apple.specificMatches.length) ≤ 2 * total
    ∧ 2 * apple.universalMatches.length ≤ total
    ∧ 2 * (neoverse.universalMatches.length + neoverse.specificMatches.length) ≤ total := by
  intro total apple neoverse
  have happle : apple = ofFunctions .appleM (select filter functions) lowConfidence warnings :=
    run_eq ..
  have hneoverse : neoverse
      = ofFunctions .neoverseV2 (select filter functions) lowConfidence warnings := run_eq ..
  refine ⟨?_, ?_, ?_⟩
  · rw [length_matches, happle, fused_ofFunctions]
    exact Rule.appleM_chains.length_flatMap_le _
  · rw [universalMatches, happle, filter_fused_ofFunctions]
    simp only [Catalog.filter_category_scanMatches]
    have h := Rule.ChainsWithin.length_flatMap_le (c := { Catalog.appleM with
      rules := Catalog.appleM.rulesIn .universal }) Rule.appleM_universal_chains
      (select filter functions)
    rwa [Nat.one_mul] at h
  · rw [length_matches, hneoverse, fused_ofFunctions]
    have h := Rule.neoverseV2_chains.length_flatMap_le (select filter functions)
    rwa [Nat.one_mul] at h

/-- an address that is completed and then branched on: two pairs of three instructions -/
def tower : Function :=
  { name := "tower"
    instructions := [⟨"0", "ADRP", "x0, 4000", ""⟩, ⟨"4", "ADD", "x0, x0, #8", ""⟩, ⟨"8", "B.EQ", "0", ""⟩] }

def comparedBranch : Function :=
  { name := "compared", instructions := [⟨"0", "CMP", "x0, x1", ""⟩, ⟨"4", "B.EQ", "0", ""⟩] }

theorem length_fused_replicate (c : Catalog) (f : Function) (k : Nat) (lowConfidence : Bool)
    (warnings : List String) :
    (ofFunctions c (List.replicate k f) lowConfidence warnings).fused.length
      = k * (c.scanMatches f.name f.instructions).length := by
  rw [fused_ofFunctions, List.length_flatMap, List.map_replicate, List.sum_replicate, smul_eq_mul]

/-- **No bound is too large**: there are listings of any length that reach it. -/
theorem saved_slots_reached (workers k : Nat) (lowConfidence : Bool) (warnings : List String) :
    ∃ fs gs : List Function,
      (fs.map fun f => f.instructions.length).sum = 3 * k
      ∧ (run .appleM workers fs none lowConfidence warnings).fused.length = 2 * k
      ∧ (gs.map fun f => f.instructions.length).sum = 2 * k
      ∧ (run .appleM workers gs none lowConfidence warnings).universalMatches.length = k
      ∧ (run .neoverseV2 workers gs none lowConfidence warnings).fused.length = k := by
  refine ⟨List.replicate k tower, List.replicate k comparedBranch, ?_, ?_, ?_, ?_, ?_⟩
  · rw [List.map_replicate, List.sum_replicate, smul_eq_mul]
    exact Nat.mul_comm k 3
  · have h : (Catalog.appleM.scanMatches tower.name tower.instructions).length = 2 := by decide +kernel
    rw [run_eq, select, length_fused_replicate, h, Nat.mul_comm]
  · rw [List.map_replicate, List.sum_replicate, smul_eq_mul]
    exact Nat.mul_comm k 2
  · have h : ((Catalog.appleM.scanMatches comparedBranch.name comparedBranch.instructions).filter
        (·.category = .universal)).length = 1 := by decide +kernel
    rw [run_eq, select, universalMatches, filter_fused_ofFunctions, List.length_flatMap,
      List.map_replicate, List.sum_replicate, smul_eq_mul, h, Nat.mul_one]
  · have h : (Catalog.neoverseV2.scanMatches comparedBranch.name comparedBranch.instructions).length
        = 1 := by decide +kernel
    rw [run_eq, select, length_fused_replicate, h, Nat.mul_one]

end Analysis

end MacroFusion
