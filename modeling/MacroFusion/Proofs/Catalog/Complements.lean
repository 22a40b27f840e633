import MacroFusion.Catalog.AppleM
import MacroFusion.Catalog.NeoverseV2
import MacroFusion.Proofs.Analysis.Balance
import MacroFusion.Proofs.Analysis.Sites
import MacroFusion.Proofs.Regex.Words

/-!
# Complements: fused, or else missed

A catalog may know two patterns twice: as a rule, which fuses the two when they are neighbours, and as an
opportunity, which is missed when the second does not come next.  The opportunity then takes up just what
the rule leaves.  Its detector calls an instruction without a successor unpaired, but no scan asks it
about the last instruction of a function, and no rule can fuse that one either.

* `Rule.ComplementedBy`     the rule and the opportunity are over the same patterns;
* `detects_eq`              at two neighbours, the opportunity is missed just if the first fits and the rule
                            does not fuse them;
* `exists_fusedIn_iff`, `exists_missedIn_iff`   what is found at a position;
* `length_scanMatches_add_length_scanMisses`    the records of both, counted together;
* `aes_rules`, `aes_missed` the rounds of AES, in both shipped catalogs;
* `fused_xor_missed`        so each round that is not the last instruction is reported once.
-/

namespace MacroFusion

/-! ## A rule and an opportunity over the same patterns -/

/-- the opportunity is missed where the second pattern of the rule does not come next -/
structure Rule.ComplementedBy (r : Rule) (p : MissedPattern) : Prop where
  unshared : r.sharedRegister = false
  detector_eq : p.detector = .unpaired r.first r.second

namespace Rule.ComplementedBy

variable {r : Rule} {p : MissedPattern}

theorem fuses_eq (h : r.ComplementedBy p) (a b : Instruction) :
    r.fuses a b = (r.first.fits a.mnemonic && r.second.fits b.mnemonic) := by
  rw [fuses, h.unshared]
  exact Bool.and_true _

theorem detects_eq (h : r.ComplementedBy p) (a b : Instruction) (rest : List Instruction) :
    p.detector.detects (a :: b :: rest) = (r.first.fits a.mnemonic && !r.fuses a b) := by
  rw [h.detector_eq, h.fuses_eq]
  show (r.first.fits a.mnemonic && !r.second.fits b.mnemonic) = _
  cases r.first.fits a.mnemonic <;> rfl

end Rule.ComplementedBy

theorem Rule.fits_of_fuses {r : Rule} {a b : Instruction} (h : r.fuses a b = true) :
    r.first.fits a.mnemonic = true := by
  rw [fuses, Bool.and_assoc, Bool.and_eq_true] at h
  exact h.1

/-! ## What is found at one position -/

/-- the instruction at `i` fits, and another one comes after it -/
def Pattern.Begins (first : Pattern) (is : List Instruction) (i : Nat) : Prop :=
  ∃ a b, is[i]? = some a ∧ is[i + 1]? = some b ∧ first.fits a.mnemonic = true

namespace Catalog

section
variable {c : Catalog} {function : String} {is : List Instruction} {i k q : Nat} {r : Rule}
  {p : MissedPattern}

theorem exists_fusedIn_iff (hr : c.rules[k]? = some r) :
    (∃ m, c.FusedIn function is (i, k) m) ↔
      ∃ a b, is[i]? = some a ∧ is[i + 1]? = some b ∧ r.fuses a b = true := by
  constructor
  · rintro ⟨m, a, b, r', ha, hb, hr', hf, -⟩
    obtain rfl : r = r' := Option.some.inj (hr.symm.trans hr')
    exact ⟨a, b, ha, hb, hf⟩
  · rintro ⟨a, b, ha, hb, hf⟩
    exact ⟨_, a, b, r, ha, hb, hr, hf, rfl⟩

theorem window_eq {a b : Instruction} (ha : is[i]? = some a) (hb : is[i + 1]? = some b) :
    is.extract i (min (i + 3) is.length) = a :: b :: (is.drop (i + 2)).take 1 := by
  obtain ⟨hi, rfl⟩ := List.getElem?_eq_some_iff.mp ha
  obtain ⟨hj, rfl⟩ := List.getElem?_eq_some_iff.mp hb
  rw [extract_window, List.drop_eq_getElem_cons hi, List.drop_eq_getElem_cons hj]
  rfl

theorem exists_missedIn_iff (hp : c.missed[q]? = some p) (h : r.ComplementedBy p) :
    (∃ m, c.MissedIn function is (i, q) m) ↔
      ∃ a b, is[i]? = some a ∧ is[i + 1]? = some b ∧ r.first.fits a.mnemonic = true
        ∧ ¬ r.fuses a b = true := by
  constructor
  · rintro ⟨m, a, p', ha, hlt, hp', hd, -⟩
    obtain rfl : p = p' := Option.some.inj (hp.symm.trans hp')
    have hb : is[i + 1]? = some is[i + 1] := List.getElem?_eq_getElem hlt
    rw [window_eq ha hb, h.detects_eq, Bool.and_eq_true, Bool.not_eq_true'] at hd
    exact ⟨a, _, ha, hb, hd.1, Bool.not_eq_true _ ▸ hd.2⟩
  · rintro ⟨a, b, ha, hb, hfits, hf⟩
    refine ⟨_, a, p, ha, (List.getElem?_eq_some_iff.mp hb).1, hp, ?_, rfl⟩
    rw [window_eq ha hb, h.detects_eq, Bool.and_eq_true, Bool.not_eq_true']
    exact ⟨hfits, Bool.eq_false_of_not_eq_true hf⟩

/-- **Fused or missed, and never both**, where the first pattern begins a pair. -/
theorem fusedIn_xor_missedIn (hr : c.rules[k]? = some r) (hp : c.missed[q]? = some p)
    (h : r.ComplementedBy p) (hb : r.first.Begins is i) :
    Xor (∃ m, c.FusedIn function is (i, k) m) (∃ m, c.MissedIn function is (i, q) m) := by
  obtain ⟨a, b, ha, hb, hfits⟩ := hb
  have hfused : (∃ m, c.FusedIn function is (i, k) m) ↔ r.fuses a b = true := by
    rw [exists_fusedIn_iff hr]
    simp [ha, hb]
  have hmissed : (∃ m, c.MissedIn function is (i, q) m) ↔ ¬ r.fuses a b = true := by
    rw [exists_missedIn_iff hp h]
    simp [ha, hb, hfits]
  rw [hfused, hmissed]
  by_cases hf : r.fuses a b = true
  · exact .inl ⟨hf, not_not_intro hf⟩
  · exact .inr ⟨hf, hf⟩

theorem not_fusedIn_and_not_missedIn (hr : c.rules[k]? = some r) (hp : c.missed[q]? = some p)
    (h : r.ComplementedBy p) (hb : ¬ r.first.Begins is i) :
    (¬ ∃ m, c.FusedIn function is (i, k) m) ∧ ¬ ∃ m, c.MissedIn function is (i, q) m := by
  rw [exists_fusedIn_iff hr, exists_missedIn_iff hp h]
  constructor
  · rintro ⟨a, b, ha, hb', hf⟩
    exact hb ⟨a, b, ha, hb', Rule.fits_of_fuses hf⟩
  · rintro ⟨a, b, ha, hb', hfits, -⟩
    exact hb ⟨a, b, ha, hb', hfits⟩

end

/-! ## Records of both, counted together -/

section
variable {r : Rule} {p : MissedPattern} (h : r.ComplementedBy p)
include h

/-- one record at two neighbours, if the first of them fits -/
theorem length_matchesAt_add_length_missesAt {c d : Catalog} (hc : c.rules = [r]) (hd : d.missed = [p])
    (function : String) (a b : Instruction) (rest : List Instruction) :
    (c.matchesAt function a b).length + (d.missesAt function a (a :: b :: rest)).length
      = if r.first.fits a.mnemonic then 1 else 0 := by
  rw [matchesAt, missesAt, hc, hd, List.length_map, List.length_map, ← List.countP_eq_length_filter,
    ← List.countP_eq_length_filter, List.countP_singleton, List.countP_singleton, h.detects_eq]
  by_cases hf : r.fuses a b = true
  · simp [hf, Rule.fits_of_fuses hf]
  · simp [hf]

/-- **The rule and the opportunity alone** report every instruction that fits, but for the last. -/
theorem length_scanMatches_add_length_scanMisses {c d : Catalog} (hc : c.rules = [r])
    (hd : d.missed = [p]) (function : String) (is : List Instruction) :
    (c.scanMatches function is).length + (d.scanMisses function is).length
      = is.dropLast.countP (r.first.fits ·.mnemonic) := by
  -- neither scan asks about the last instruction, and `dropLast` leaves it out
  induction is with
  | nil => rfl
  | cons a is ih =>
    cases is with
    | nil => rfl
    | cons b rest =>
      have hstep : (c.matchesAt function a b).length
          + (d.missesAt function a ((a :: b :: rest).take Detector.reach)).length
          = if r.first.fits a.mnemonic then 1 else 0 :=
        length_matchesAt_add_length_missesAt h hc hd function a b (rest.take 1)
      rw [scanMatches, scanMisses, List.length_append, List.length_append,
        List.dropLast_cons_of_ne_nil (List.cons_ne_nil b rest), List.countP_cons, ← ih, ← hstep]
      omega

/-- the same in the company of other rules and opportunities, of other names -/
theorem countP_scanMatches_add_countP_scanMisses {c : Catalog}
    (hr : c.rules.filter (·.name = r.name) = [r]) (hp : c.missed.filter (·.name = p.name) = [p])
    (function : String) (is : List Instruction) :
    (c.scanMatches function is).countP (·.rule = r.name)
        + (c.scanMisses function is).countP (·.pattern = p.name)
      = is.dropLast.countP (r.first.fits ·.mnemonic) := by
  rw [List.countP_eq_length_filter, List.countP_eq_length_filter,
    filter_scanMatches c (fun name _ => name = r.name), filter_scanMisses c (fun name => name = p.name)]
  exact length_scanMatches_add_length_scanMisses h hr hp function is

end

end Catalog

theorem Analysis.countP_fused_add_countP_missed {c : Catalog} {r : Rule} {p : MissedPattern}
    (h : r.ComplementedBy p) (hr : c.rules.filter (·.name = r.name) = [r])
    (hp : c.missed.filter (·.name = p.name) = [p]) (fs : List Function) (lowConfidence : Bool)
    (warnings : List String) :
    (ofFunctions c fs lowConfidence warnings).fused.countP (·.rule = r.name)
        + (ofFunctions c fs lowConfidence warnings).missed.countP (·.pattern = p.name)
      = (fs.map fun f => f.instructions.dropLast.countP (r.first.fits ·.mnemonic)).sum := by
  rw [fused_ofFunctions, missed_ofFunctions, List.countP_flatMap, List.countP_flatMap, ← List.sum_map_add]
  congr 2
  funext f
  exact Catalog.countP_scanMatches_add_countP_scanMisses h hr hp f.name f.instructions

/-! ## Rounds of AES -/

namespace Catalog

section
variable {c : Catalog} (hc : c ∈ [appleM, neoverseV2])
include hc

theorem aes_rules :
    (c.rules.filter (·.name = "AES+AESMC (crypto)")).map (fun r => (r.first, r.second, r.sharedRegister))
      = [(Rule.aesRound, Rule.aesMixColumns, false)] := by
  simp only [List.mem_cons, List.not_mem_nil, or_false] at hc
  rcases hc with rfl | rfl <;>
    simp (disch := decide) only [appleM, neoverseV2, Rule.universalBranches, Rule.branch,
      List.cons_append, List.nil_append, List.filter_cons_of_pos, List.filter_cons_of_neg,
      List.filter_nil, List.map_cons, List.map_nil]

theorem aes_missed :
    (c.missed.filter (·.name = "AES without AESMC")).map (·.detector)
      = [.unpaired Rule.aesRound Rule.aesMixColumns] := by
  simp only [List.mem_cons, List.not_mem_nil, or_false] at hc
  rcases hc with rfl | rfl <;>
    simp (disch := decide) only [appleM, neoverseV2, List.filter_cons_of_pos, List.filter_cons_of_neg,
      List.filter_nil, List.map_cons, List.map_nil]

end

end Catalog

theorem Rule.fits_aesRound (mnemonic : String) :
    aesRound.fits mnemonic = true ↔ mnemonic ∈ ["AESE", "AESD"] :=
  Pattern.fits_iff_mem (by decide +kernel) mnemonic

/-- **Every round of AES is reported once**, as fused or as missed, unless it is the last instruction of
its function. -/
theorem Analysis.countP_aes {c : Catalog} (hc : c ∈ [.appleM, .neoverseV2]) (workers : Nat)
    (functions : List Function) (filter : Option String) (lowConfidence : Bool)
    (warnings : List String) :
    let a := run c workers functions filter lowConfidence warnings
    a.fused.countP (·.rule = "AES+AESMC (crypto)") + a.missed.countP (·.pattern = "AES without AESMC")
      = ((select filter functions).map fun f =>
          f.instructions.dropLast.countP (·.mnemonic ∈ ["AESE", "AESD"])).sum := by
  intro a
  obtain ⟨r, hr, hpatterns⟩ := List.map_eq_singleton_iff.mp (Catalog.aes_rules hc)
  obtain ⟨p, hp, hdetector⟩ := List.map_eq_singleton_iff.mp (Catalog.aes_missed hc)
  have hrule : r.name = "AES+AESMC (crypto)" := by
    have hmem : r ∈ c.rules.filter (·.name = "AES+AESMC (crypto)") := hr ▸ List.mem_singleton_self r
    simpa using (List.mem_filter.mp hmem).2
  have hpattern : p.name = "AES without AESMC" := by
    have hmem : p ∈ c.missed.filter (·.name = "AES without AESMC") := hp ▸ List.mem_singleton_self p
    simpa using (List.mem_filter.mp hmem).2
  obtain ⟨hfirst, hsecond, hshared⟩ : r.first = Rule.aesRound ∧ r.second = Rule.aesMixColumns
      ∧ r.sharedRegister = false := by
    simpa only [Prod.mk.injEq] using hpatterns
  have h : r.ComplementedBy p := ⟨hshared, by rw [hdetector, hfirst, hsecond]⟩
  have hcount := countP_fused_add_countP_missed h (c := c) (by rw [hrule, hr]) (by rw [hpattern, hp])
    (select filter functions) lowConfidence warnings
  have hfits : (fun i : Instruction => r.first.fits i.mnemonic)
      = fun i => decide (i.mnemonic ∈ ["AESE", "AESD"]) := by
    funext i
    rw [Bool.eq_iff_iff, decide_eq_true_iff, hfirst, Rule.fits_aesRound]
  rwa [hrule, hpattern, hfits, ← run_eq c workers] at hcount

namespace Catalog

/-- **Fused, or else missed.**  Where a catalog has a rule without a shared register, and an opportunity that
is missed when the second pattern of the rule does not come next, one of the two fires at every
instruction that fits the first pattern and has a successor, never both, and neither fires anywhere else.
So under the shipped catalogs the rounds of AES that are fused and those that are missed are, together,
those that are not the last instruction of their function. -/
theorem fused_xor_missed (c : Catalog) {k q : Nat} {r : Rule} {p : MissedPattern}
    (hr : c.rules[k]? = some r) (hp : c.missed[q]? = some p) (h : r.ComplementedBy p) (f : Function) :
    Enumerates (Prod.Lex (· < ·) (· < ·)) (c.FusedIn f.name f.instructions) (c.scan f).fused
    ∧ Enumerates (Prod.Lex (· < ·) (· < ·)) (c.MissedIn f.name f.instructions) (c.scan f).missed
    ∧ (∀ i, r.first.Begins f.instructions i →
      Xor (∃ m, c.FusedIn f.name f.instructions (i, k) m)
        (∃ m, c.MissedIn f.name f.instructions (i, q) m))
    ∧ (∀ i, ¬ r.first.Begins f.instructions i →
      (¬ ∃ m, c.FusedIn f.name f.instructions (i, k) m)
      ∧ ¬ ∃ m, c.MissedIn f.name f.instructions (i, q) m)
    ∧ ∀ d ∈ [appleM, neoverseV2], ∀ (workers : Nat) (functions : List Function)
      (filter : Option String) (lowConfidence : Bool) (warnings : List String),
      let a := Analysis.run d workers functions filter lowConfidence warnings
      a.fused.countP (·.rule = "AES+AESMC (crypto)")
          + a.missed.countP (·.pattern = "AES without AESMC")
        = ((Analysis.select filter functions).map fun f =>
            f.instructions.dropLast.countP (·.mnemonic ∈ ["AESE", "AESD"])).sum := by
  rw [fused_scan, missed_scan]
  exact ⟨c.scanMatches_enumerates f.name f.instructions, c.scanMisses_enumerates f.name f.instructions,
    fun _ => fusedIn_xor_missedIn hr hp h, fun _ => not_fusedIn_and_not_missedIn hr hp h,
    fun _ => Analysis.countP_aes⟩

/-- a round with its mix-columns step, one without it, and one at the end -/
def threeRounds : Function :=
  ⟨"f", [⟨"0", "AESE", "v0, v1", "aese"⟩, ⟨"4", "AESMC", "v0, v0", "aesmc"⟩,
    ⟨"8", "AESD", "v0, v1", "aesd"⟩, ⟨"c", "ADD", "x0, x0, #1", "add"⟩,
    ⟨"10", "AESE", "v0, v1", "aese"⟩]⟩

theorem fused_xor_missed_threeRounds :
    ∃ r p, appleM.rules[10]? = some r ∧ appleM.missed[2]? = some p ∧ r.ComplementedBy p
    ∧ r.first.Begins threeRounds.instructions 2
    ∧ Xor (∃ m, appleM.FusedIn threeRounds.name threeRounds.instructions (2, 10) m)
      (∃ m, appleM.MissedIn threeRounds.name threeRounds.instructions (2, 2) m)
    ∧ (Analysis.run appleM 1 [threeRounds] none false []).fused.countP (·.rule = "AES+AESMC (crypto)")
        + (Analysis.run appleM 1 [threeRounds] none false []).missed.countP
          (·.pattern = "AES without AESMC")
      = 2 := by
  have hbegins : Rule.aesRound.Begins threeRounds.instructions 2 :=
    ⟨_, _, rfl, rfl, (Rule.fits_aesRound "AESD").mpr (by decide)⟩
  obtain ⟨-, -, hxor, -, hcount⟩ :=
    fused_xor_missed appleM (k := 10) (q := 2) rfl rfl ⟨rfl, rfl⟩ threeRounds
  refine ⟨_, _, rfl, rfl, ⟨rfl, rfl⟩, hbegins, hxor 2 hbegins, ?_⟩
  exact hcount appleM List.mem_cons_self 1 [threeRounds] none false []

end Catalog

end MacroFusion
