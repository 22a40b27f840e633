import MacroFusion.Catalog.AppleM
import MacroFusion.Catalog.NeoverseV2
import MacroFusion.Expression.Meaning
import MacroFusion.Proofs.Analysis.Sites

/-!
# Separated pairs: two tables that say the same

A shipped catalog knows some pairs of instructions twice: in the table of its rules, as pairs that fuse,
and in the table of its missed opportunities, as pairs with an instruction in between.  The two tables
are written apart from each other.

* `Pairing`             these pairs, with the names that they have in both tables;
* `Pairing.fuses`       whether a rule of the pair fuses two instructions;
* `couples_detector`    what the detector takes for the two halves of the pair, the rules fuse;
* `detects_window_iff`  a detector sees the instruction at `i` and the one at `i + 2`;
* `separated_enumerates`   a pair is reported just where a rule fuses these two, so that it fuses when
                        the instruction in between is taken out;
* `fused_and_missed_iff`   a pair is reported as fused and as missed at one position just if both
                        instructions after it are partners of the one there: no detector looks at the
                        instruction in between.
-/

namespace MacroFusion

/-! ## The two tables -/

/-- the pairs that a shipped catalog knows both as fused and as separated -/
inductive Pairing where
  /-- a comparison and a conditional branch -/
  | compareBranch
  /-- the page of an address, and an addition or a load that completes it -/
  | pageAddress
  /-- two parts of a wide immediate -/
  | wideImmediate

namespace Pairing

def catalog : Pairing → Catalog
  | .compareBranch | .pageAddress => .appleM
  | .wideImmediate => .neoverseV2

/-- the name under which the pair is reported as missed -/
def pattern : Pairing → String
  | .compareBranch => "CMP separated from B.cond"
  | .pageAddress => "ADRP separated from ADD/LDR"
  | .wideImmediate => "MOVZ separated from MOVK"

/-- the names of the rules that fuse the pair -/
def ruleNames : Pairing → List String
  | .compareBranch => ["CMP+B.cond"]
  | .pageAddress => ["ADRP+ADD (address generation)", "ADRP+LDR (address generation)"]
  | .wideImmediate => ["MOVZ+MOVK (wide immediate)"]

def rules (p : Pairing) : List Rule := p.catalog.rules.filter (p.ruleNames.contains ·.name)

/-- whether a rule of the pair fuses `a`, directly followed by `b` -/
def fuses (p : Pairing) (a b : Instruction) : Bool := p.rules.any (·.fuses a b)

def detector : Pairing → Detector
  | .compareBranch => .separated Rule.comparison Rule.conditionalBranch false
  | .pageAddress => .separated Rule.page Rule.additionOrLoad true
  | .wideImmediate => .separated Rule.wideStart Rule.widePart true

/-- one opportunity of the catalog has the name, and this is its detector -/
theorem detectors_eq (p : Pairing) :
    (p.catalog.missed.filter (·.name = p.pattern)).map (·.detector) = [p.detector] := by
  cases p <;>
    simp (disch := decide) only [catalog, detector, Catalog.appleM, Catalog.neoverseV2,
      List.filter_cons_of_pos, List.filter_cons_of_neg, List.filter_nil, List.map_cons, List.map_nil]

theorem names_nodup (p : Pairing) : (p.catalog.missed.map (·.name)).Nodup := by
  cases p <;> decide

theorem detector_of_name {p : Pairing} {q : MissedPattern} (hq : q ∈ p.catalog.missed)
    (hn : q.name = p.pattern) : q.detector = p.detector := by
  have hmem : q.detector ∈ (p.catalog.missed.filter (·.name = p.pattern)).map (·.detector) :=
    List.mem_map_of_mem (List.mem_filter.mpr ⟨hq, by simpa using hn⟩)
  rw [detectors_eq] at hmem
  exact List.mem_singleton.mp hmem

end Pairing

/-! ## Detectors of separated pairs -/

/-- whether the detector takes the two for the halves of a separated pair, whatever is in between -/
def Detector.couples : Detector → Instruction → Instruction → Bool
  | .separated first second shared, a, d =>
    first.fits a.mnemonic && second.fits d.mnemonic && (!shared || a.sharesRegister d)
  | .unpaired _ _, _, _ | .custom _ _, _, _ => false

/-- the detector of the pairs that a rule would fuse -/
def Rule.separated (r : Rule) : Detector := .separated r.first r.second r.sharedRegister

/-- A detector looks at the instruction at `i` and at the second one after it. -/
theorem Detector.detects_window_iff (first second : Pattern) (shared : Bool) (is : List Instruction)
    (i : Nat) :
    (separated first second shared).detects (is.extract i (min (i + 3) is.length)) = true ↔
      ∃ a d, is[i]? = some a ∧ is[i + 2]? = some d
        ∧ (separated first second shared).couples a d = true := by
  have h0 : is[i]? = (is.drop i)[0]? := by rw [List.getElem?_drop, Nat.add_zero]
  have h2 : is[i + 2]? = (is.drop i)[2]? := by rw [List.getElem?_drop]
  rw [Catalog.extract_window, h0, h2]
  show detects _ ((is.drop i).take 3) = true ↔ _
  match is.drop i with
  | [] => simp [detects]
  | [a] => simp [detects]
  | [a, b] => simp [detects]
  | a :: b :: d :: rest => simp [detects, couples]

namespace Pairing

/-- the rules of the pair, as detectors -/
def parts : Pairing → List Detector
  | .pageAddress => [.separated Rule.page Rule.addition true, .separated Rule.page Rule.load true]
  | p => [p.detector]

theorem rules_separated (p : Pairing) : p.rules.map Rule.separated = p.parts := by
  cases p <;>
    simp (disch := decide) only [rules, catalog, parts, detector, Catalog.appleM, Catalog.neoverseV2,
      Rule.universalBranches, List.cons_append, List.nil_append, List.filter_cons_of_pos,
      List.filter_cons_of_neg, List.filter_nil, List.map_cons, List.map_nil, Rule.separated, Rule.branch]

theorem fuses_eq (p : Pairing) (a b : Instruction) : p.fuses a b = p.parts.any (·.couples a b) := by
  rw [← rules_separated, List.any_map]
  rfl

/-- The pattern of the detector offers the two that the rules have one by one. -/
theorem fits_additionOrLoad (mnemonic : String) :
    Rule.additionOrLoad.fits mnemonic = (Rule.addition.fits mnemonic || Rule.load.fits mnemonic) := by
  have halt : Rule.additionOrLoad.expression = .alt Rule.addition.expression Rule.load.expression := by
    decide +kernel
  have hadd : (Rule.addition.expression.trimmed true true).regular?.isSome = true := by decide +kernel
  have hload : (Rule.load.expression.trimmed true true).regular?.isSome = true := by decide +kernel
  obtain ⟨r, hr⟩ := Option.isSome_iff_exists.mp hadd
  obtain ⟨s, hs⟩ := Option.isSome_iff_exists.mp hload
  rw [Pattern.fits, halt]
  exact Expression.fits_alt hr hs mnemonic.toList

/-- What the detector takes for the halves of the pair, the rules fuse. -/
theorem couples_detector (p : Pairing) (a d : Instruction) : p.detector.couples a d = p.fuses a d := by
  rw [fuses_eq]
  cases p with
  | compareBranch => simp [parts]
  | pageAddress =>
    simp only [parts, detector, Detector.couples, fits_additionOrLoad, List.any_cons, List.any_nil,
      Bool.or_false, Bool.not_true, Bool.false_or]
    rw [Bool.and_or_distrib_left, Bool.and_or_distrib_right]
  | wideImmediate => simp [parts]

theorem detects_iff (p : Pairing) (is : List Instruction) (i : Nat) :
    p.detector.detects (is.extract i (min (i + 3) is.length)) = true ↔
      ∃ a d, is[i]? = some a ∧ is[i + 2]? = some d ∧ p.fuses a d = true := by
  simp only [← couples_detector]
  cases p <;> exact Detector.detects_window_iff _ _ _ is i

/-! ## Reports at a position -/

/-- rule number `r` reports the pair as fused at `i`, and `m` is the record of it -/
def FusedIn (p : Pairing) (f : Function) : Nat × Nat → Match → Prop
  | (i, r), m => p.catalog.FusedIn f.name f.instructions (i, r) m ∧ m.rule ∈ p.ruleNames

/-- the pair is reported as missed at `i`, and `m` is the record of it -/
def MissedIn (p : Pairing) (f : Function) : Nat → Miss → Prop
  | i, m => (∃ q, p.catalog.MissedIn f.name f.instructions (i, q) m) ∧ m.pattern = p.pattern

/-- a rule of the pair fuses the instructions at `i` and `i + 2`, and `m` is the record that an
opportunity of its name makes at `i` -/
def SeparatedIn (p : Pairing) (f : Function) : Nat → Miss → Prop
  | i, m => ∃ a d q, f.instructions[i]? = some a ∧ f.instructions[i + 2]? = some d
      ∧ p.fuses a d = true ∧ q ∈ p.catalog.missed ∧ q.name = p.pattern
      ∧ m = { function := f.name, address := a.address, pattern := p.pattern
              instructionText := a.raw, fix := q.fix }

variable (p : Pairing) (f : Function)

theorem fused_enumerates :
    Enumerates (Prod.Lex (· < ·) (· < ·)) (p.FusedIn f)
      ((p.catalog.scan f).fused.filter (·.rule ∈ p.ruleNames)) := by
  have hall := (p.catalog.scanMatches_enumerates f.name f.instructions).filter
    (fun _ _ _ => Catalog.FusedIn.unique) (fun m => decide (m.rule ∈ p.ruleNames))
  rw [Catalog.fused_scan]
  refine hall.congr ?_
  rintro ⟨i, r⟩ m
  rw [FusedIn, decide_eq_true_eq]

theorem missed_enumerates :
    Enumerates (· < ·) (p.MissedIn f) ((p.catalog.scan f).missed.filter (·.pattern = p.pattern)) := by
  rw [Catalog.missed_scan]
  exact Catalog.misses_named_enumerates p.names_nodup p.pattern

theorem exists_fusedIn_iff {i : Nat} :
    (∃ r m, p.FusedIn f (i, r) m) ↔ ∃ a b, f.instructions[i]? = some a
      ∧ f.instructions[i + 1]? = some b ∧ p.fuses a b = true := by
  constructor
  · rintro ⟨r, m, ⟨a, b, rule, ha, hb, hr, hf, rfl⟩, hn⟩
    refine ⟨a, b, ha, hb, List.any_eq_true.mpr ⟨rule, ?_, hf⟩⟩
    exact List.mem_filter.mpr ⟨List.mem_of_getElem? hr, List.contains_iff_mem.mpr hn⟩
  · rintro ⟨a, b, ha, hb, hf⟩
    obtain ⟨rule, hmem, hfuse⟩ := List.any_eq_true.mp hf
    obtain ⟨hrule, hname⟩ := List.mem_filter.mp hmem
    obtain ⟨r, hr⟩ := List.getElem?_of_mem hrule
    exact ⟨r, _, ⟨a, b, rule, ha, hb, hr, hfuse, rfl⟩, List.contains_iff_mem.mp hname⟩

theorem missedIn_iff {i : Nat} {m : Miss} : p.MissedIn f i m ↔ p.SeparatedIn f i m := by
  constructor
  · rintro ⟨⟨k, a, q, ha, _, hk, hdet, rfl⟩, hn⟩
    have hq : q ∈ p.catalog.missed := List.mem_of_getElem? hk
    have hname : q.name = p.pattern := hn
    rw [detector_of_name hq hname, detects_iff] at hdet
    obtain ⟨a', d, ha', hd, hfuse⟩ := hdet
    obtain rfl : a = a' := Option.some.inj (ha.symm.trans ha')
    exact ⟨a, d, q, ha, hd, hfuse, hq, hname, by rw [← hname]⟩
  · rintro ⟨a, d, q, ha, hd, hfuse, hq, hname, rfl⟩
    obtain ⟨k, hk⟩ := List.getElem?_of_mem hq
    have hlt : i + 2 < f.instructions.length := (List.getElem?_eq_some_iff.mp hd).1
    refine ⟨⟨k, a, q, ha, by omega, hk, ?_, by rw [hname]⟩, rfl⟩
    rw [detector_of_name hq hname, detects_iff]
    exact ⟨a, d, ha, hd, hfuse⟩

theorem exists_missedIn_iff {i : Nat} :
    (∃ m, p.MissedIn f i m) ↔ ∃ a d, f.instructions[i]? = some a
      ∧ f.instructions[i + 2]? = some d ∧ p.fuses a d = true := by
  simp only [missedIn_iff]
  constructor
  · rintro ⟨m, a, d, q, ha, hd, hfuse, _⟩
    exact ⟨a, d, ha, hd, hfuse⟩
  · rintro ⟨a, d, ha, hd, hfuse⟩
    -- the table has an opportunity of the name
    have hne : p.catalog.missed.filter (·.name = p.pattern) ≠ [] := by
      intro h
      have hdet := p.detectors_eq
      rw [h] at hdet
      cases hdet
    obtain ⟨q, hq⟩ := List.exists_mem_of_ne_nil _ hne
    obtain ⟨hmem, hname⟩ := List.mem_filter.mp hq
    exact ⟨_, a, d, q, ha, hd, hfuse, hmem, of_decide_eq_true hname, rfl⟩

/-- **A pair is reported as separated just where its rules would fuse it.**  The records of its name are,
in order, one for each position whose instruction a rule of the pair fuses with the second one after
it; and these are the positions at which the pair is fused once the instruction in between is taken
out. -/
theorem separated_enumerates :
    Enumerates (· < ·) (p.SeparatedIn f)
      ((p.catalog.scan f).missed.filter (·.pattern = p.pattern))
    ∧ ∀ i, (∃ m, p.SeparatedIn f i m) ↔
      ∃ r m, p.FusedIn { f with instructions := f.instructions.eraseIdx (i + 1) } (i, r) m := by
  constructor
  · exact (p.missed_enumerates f).congr fun i m => p.missedIn_iff f
  · intro i
    have h0 : (f.instructions.eraseIdx (i + 1))[i]? = f.instructions[i]? :=
      List.getElem?_eraseIdx_of_lt (Nat.lt_succ_self i)
    have h1 : (f.instructions.eraseIdx (i + 1))[i + 1]? = f.instructions[i + 2]? :=
      List.getElem?_eraseIdx_of_ge (Nat.le_refl _)
    simp only [exists_fusedIn_iff, h0, h1, ← missedIn_iff, exists_missedIn_iff]

/-- **Fused and missed at one position.**  The records of the rules of a pair, and those of its name
among the missed opportunities, are one for each position at which it is reported; a position is among
both just if the two instructions after it are both partners of the one there. -/
theorem fused_and_missed_iff :
    Enumerates (Prod.Lex (· < ·) (· < ·)) (p.FusedIn f)
      ((p.catalog.scan f).fused.filter (·.rule ∈ p.ruleNames))
    ∧ Enumerates (· < ·) (p.MissedIn f)
      ((p.catalog.scan f).missed.filter (·.pattern = p.pattern))
    ∧ ∀ i, ((∃ r m, p.FusedIn f (i, r) m) ∧ ∃ m, p.MissedIn f i m) ↔
      ∃ a b d, f.instructions[i]? = some a ∧ f.instructions[i + 1]? = some b
        ∧ f.instructions[i + 2]? = some d ∧ p.fuses a b = true ∧ p.fuses a d = true := by
  refine ⟨p.fused_enumerates f, p.missed_enumerates f, ?_⟩
  intro i
  rw [exists_fusedIn_iff, exists_missedIn_iff]
  constructor
  · rintro ⟨⟨a, b, ha, hb, hab⟩, a', d, ha', hd, had⟩
    obtain rfl : a = a' := Option.some.inj (ha.symm.trans ha')
    exact ⟨a, b, d, ha, hb, hd, hab, had⟩
  · rintro ⟨a, b, d, ha, hb, hd, hab, had⟩
    exact ⟨⟨a, b, ha, hb, hab⟩, a, d, ha, hd, had⟩

/-- a comparison that fuses with the branch after it is reported as separated from the next branch -/
example :
    let f : Function := ⟨"f", [⟨"0", "CMP", "X0, X1", ""⟩, ⟨"4", "B.EQ", "a", ""⟩, ⟨"8", "B.NE", "b", ""⟩]⟩
    (Catalog.appleM.scan f).fused.map (fun m => (m.address, m.rule)) = [("0", "CMP+B.cond")]
    ∧ (Catalog.appleM.scan f).missed.map (fun m => (m.address, m.pattern))
      = [("0", "CMP separated from B.cond")] := by
  decide +kernel

end Pairing

end MacroFusion
