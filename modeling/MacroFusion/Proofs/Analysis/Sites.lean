import Mathlib.Data.List.Forall2
import MacroFusion.Analysis

/-!
# Sites: where the records of an analysis come from

A record belongs to a SITE: the number of a function, the position of an instruction in it, and the
number of a rule (or of a missed opportunity) of the catalog.  Sites are ordered first by function, then
by position, then by rule.

* `Enumerates lt P xs`      `xs` holds just what `P` has at the indices, each once, in the order `lt`;
* `Enumerates.append`       two lists one after the other, where the indices of the first come before
                            those of the second;
* `Enumerates.filter`, `Enumerates.reindex`   the entries that pass a test, and other indices;
* `enumerates_filterMap`, `Enumerates.flatMap`   lists that are made entry by entry;
* `Catalog.scanMatches`, `Catalog.scanMisses`   what a scan records of each kind, without its counts;
* `Scan.Counted`            the counts are those of the records, which every step keeps, hence `scan_eq`;
* `Catalog.FusedIn`, `Catalog.MissedIn`   what it takes to have a record at a position, and which one;
* `misses_named_enumerates`   where no two opportunities have one name, the records of a name have a
                            position each;
* `Analysis.FusedAt`, `Analysis.MissedAt`   the same at a site;
* `run_enumerates`          an analysis enumerates both, whatever the number of workers.

`Enumerates.append` carries every induction: a loop that goes on to the next entry puts the indices of
the first entry in front and moves all others up by one.
-/

namespace MacroFusion

/-! ## Enumerations -/

/-- `xs` lists what `P` has at the indices: one entry for every index that has one, in the order of the
indices -/
def Enumerates {ι α : Type} (lt : ι → ι → Prop) (P : ι → α → Prop) (xs : List α) : Prop :=
  ∃ is : List ι, is.Pairwise lt ∧ (∀ i, i ∈ is ↔ ∃ x, P i x) ∧ List.Forall₂ P is xs

namespace Enumerates
variable {ι κ μ α β : Type} {lt : ι → ι → Prop} {lt' : κ → κ → Prop} {lt'' : μ → μ → Prop}

theorem congr {P Q : ι → α → Prop} {xs : List α} (h : Enumerates lt P xs)
    (hPQ : ∀ i x, P i x ↔ Q i x) : Enumerates lt Q xs := by
  have e : P = Q := by
    funext i x
    exact propext (hPQ i x)
  rwa [e] at h

theorem nil {P : ι → α → Prop} (h : ∀ i x, ¬ P i x) : Enumerates lt P [] := by
  refine ⟨[], List.Pairwise.nil, ?_, List.Forall₂.nil⟩
  intro i
  constructor
  · intro hi
    exact absurd hi (by simp)
  · rintro ⟨x, hx⟩
    exact absurd hx (h i x)

theorem exists_of_mem {P : ι → α → Prop} {xs : List α} {x : α} (h : Enumerates lt P xs) (hx : x ∈ xs) :
    ∃ i, P i x := by
  obtain ⟨is, -, -, hP⟩ := h
  induction hP with
  | nil => exact absurd hx List.not_mem_nil
  | cons hab _ ih =>
    rcases List.mem_cons.mp hx with rfl | hx
    · exact ⟨_, hab⟩
    · exact ih hx

/-- Two lists one after the other: `f` and `g` say where the indices of each go. -/
theorem append {P : ι → α → Prop} {Q : κ → α → Prop} {R : μ → α → Prop} {xs ys : List α}
    (hx : Enumerates lt P xs) (hy : Enumerates lt' Q ys) (f : ι → μ) (g : κ → μ)
    (hf : ∀ i j, lt i j → lt'' (f i) (f j)) (hg : ∀ i j, lt' i j → lt'' (g i) (g j))
    (hfg : ∀ i j, lt'' (f i) (g j))
    (hR : ∀ m x, R m x ↔ (∃ i, f i = m ∧ P i x) ∨ ∃ j, g j = m ∧ Q j x) :
    Enumerates lt'' R (xs ++ ys) := by
  obtain ⟨is, his, hmi, hpi⟩ := hx
  obtain ⟨js, hjs, hmj, hpj⟩ := hy
  refine ⟨is.map f ++ js.map g, ?_, ?_, ?_⟩
  · rw [List.pairwise_append, List.pairwise_map, List.pairwise_map]
    refine ⟨his.imp (hf _ _), hjs.imp (hg _ _), ?_⟩
    intro a ha b hb
    obtain ⟨i, _, rfl⟩ := List.mem_map.mp ha
    obtain ⟨j, _, rfl⟩ := List.mem_map.mp hb
    exact hfg i j
  · intro m
    rw [List.mem_append, List.mem_map, List.mem_map]
    constructor
    · rintro (⟨i, hi, rfl⟩ | ⟨j, hj, rfl⟩)
      · obtain ⟨x, hx⟩ := (hmi i).mp hi
        exact ⟨x, (hR _ x).mpr (Or.inl ⟨i, rfl, hx⟩)⟩
      · obtain ⟨x, hx⟩ := (hmj j).mp hj
        exact ⟨x, (hR _ x).mpr (Or.inr ⟨j, rfl, hx⟩)⟩
    · rintro ⟨x, hx⟩
      rcases (hR m x).mp hx with ⟨i, rfl, hi⟩ | ⟨j, rfl, hj⟩
      · exact Or.inl ⟨i, (hmi i).mpr ⟨x, hi⟩, rfl⟩
      · exact Or.inr ⟨j, (hmj j).mpr ⟨x, hj⟩, rfl⟩
  · apply List.rel_append
    · rw [List.forall₂_map_left_iff]
      exact hpi.imp fun i x h => (hR _ x).mpr (Or.inl ⟨i, rfl, h⟩)
    · rw [List.forall₂_map_left_iff]
      exact hpj.imp fun j x h => (hR _ x).mpr (Or.inr ⟨j, rfl, h⟩)

/-- One entry more in front: its indices get the number zero, all others move up by one. -/
theorem cons {P : ι → α → Prop} {Q R : Nat × ι → α → Prop} {xs ys : List α}
    (hx : Enumerates lt P xs) (hy : Enumerates (Prod.Lex (· < ·) lt) Q ys)
    (h0 : ∀ i x, R (0, i) x ↔ P i x) (hs : ∀ k i x, R (k + 1, i) x ↔ Q (k, i) x) :
    Enumerates (Prod.Lex (· < ·) lt) R (xs ++ ys) := by
  refine hx.append hy (fun i => (0, i)) (fun ki => (ki.1 + 1, ki.2)) ?_ ?_ ?_ ?_
  · intro i j hij
    exact Prod.Lex.right 0 hij
  · rintro ⟨k, i⟩ ⟨l, j⟩ hij
    rcases Prod.lex_def.mp hij with hlt | ⟨heq, hlt⟩
    · exact Prod.Lex.left _ _ (Nat.add_lt_add_right hlt 1)
    · have e : k = l := heq
      rw [e]
      exact Prod.Lex.right _ hlt
  · rintro i ⟨l, j⟩
    exact Prod.Lex.left _ _ (Nat.succ_pos l)
  · rintro ⟨k, i⟩ x
    cases k with
    | zero => simp [h0]
    | succ k => simp [hs]

/-- What every entry of a list gives, put together: first by the number of the entry, then by the index
inside what it gives. -/
theorem flatMap {Q : β → ι → α → Prop} {g : β → List α} (ys : List β)
    (h : ∀ y, Enumerates lt (Q y) (g y)) :
    Enumerates (Prod.Lex (· < ·) lt) (fun (ki : Nat × ι) x => ∃ y, ys[ki.1]? = some y ∧ Q y ki.2 x)
      (ys.flatMap g) := by
  induction ys with
  | nil =>
    apply Enumerates.nil
    rintro ⟨k, i⟩ x ⟨y, hy, _⟩
    simp at hy
  | cons y ys ih =>
    rw [List.flatMap_cons]
    exact (h y).cons ih (fun i x => by simp) (fun k i x => by simp)

/-- The entries that pass a test; no index has two entries, so each index keeps its entry or loses it. -/
theorem filter {P : ι → α → Prop} {xs : List α} (h : Enumerates lt P xs)
    (hP : ∀ i x y, P i x → P i y → x = y) (q : α → Bool) :
    Enumerates lt (fun i x => P i x ∧ q x = true) (xs.filter q) := by
  classical
  obtain ⟨is, hlt, hmem, hall⟩ := h
  refine ⟨is.filter fun i => decide (∃ x, P i x ∧ q x = true), hlt.filter _, ?_, ?_⟩
  · intro i
    rw [List.mem_filter, hmem, decide_eq_true_eq]
    constructor
    · exact fun hi => hi.2
    · rintro ⟨x, hx, hq⟩
      exact ⟨⟨x, hx⟩, x, hx, hq⟩
  · clear hlt hmem
    induction hall with
    | nil => exact List.Forall₂.nil
    | @cons i x is xs hx _ ih =>
      by_cases hq : q x = true
      · have hi : ∃ x, P i x ∧ q x = true := ⟨x, hx, hq⟩
        rw [List.filter_cons_of_pos hq, List.filter_cons_of_pos (by simpa using hi)]
        exact List.Forall₂.cons ⟨hx, hq⟩ ih
      · have hi : ¬ ∃ x, P i x ∧ q x = true := by
          rintro ⟨y, hy, hqy⟩
          exact hq (hP i x y hx hy ▸ hqy)
        rw [List.filter_cons_of_neg hq, List.filter_cons_of_neg (by simpa using hi)]
        exact ih

/-- The same list by other indices, where `g` keeps the order of those that have an entry. -/
theorem reindex {P : ι → α → Prop} {Q : κ → α → Prop} {xs : List α} (h : Enumerates lt P xs)
    (g : ι → κ) (hg : ∀ i j x y, P i x → P j y → lt i j → lt' (g i) (g j))
    (hQ : ∀ k x, Q k x ↔ ∃ i, g i = k ∧ P i x) : Enumerates lt' Q xs := by
  obtain ⟨is, hlt, hmem, hall⟩ := h
  refine ⟨is.map g, ?_, ?_, ?_⟩
  · rw [List.pairwise_map]
    refine hlt.imp_of_mem ?_
    intro i j hi hj hij
    obtain ⟨x, hx⟩ := (hmem i).mp hi
    obtain ⟨y, hy⟩ := (hmem j).mp hj
    exact hg i j x y hx hy hij
  · intro k
    rw [List.mem_map]
    constructor
    · rintro ⟨i, hi, hk⟩
      obtain ⟨x, hx⟩ := (hmem i).mp hi
      exact ⟨x, (hQ k x).mpr ⟨i, hk, hx⟩⟩
    · rintro ⟨x, hx⟩
      obtain ⟨i, hk, hi⟩ := (hQ k x).mp hx
      exact ⟨i, (hmem i).mpr ⟨x, hi⟩, hk⟩
  · rw [List.forall₂_map_left_iff]
    exact hall.imp fun i x hx => (hQ _ x).mpr ⟨i, rfl, hx⟩

end Enumerates

/-- A list made by keeping some entries of another. -/
theorem enumerates_filterMap {α β : Type} (h : β → Option α) (ys : List β) :
    Enumerates (· < ·) (fun (k : Nat) x => ∃ y, ys[k]? = some y ∧ h y = some x) (ys.filterMap h) := by
  induction ys with
  | nil =>
    apply Enumerates.nil
    rintro k x ⟨y, hy, _⟩
    simp at hy
  | cons y ys ih =>
    have hy : Enumerates (fun _ _ : Unit => False) (fun _ x => h y = some x) (h y).toList := by
      cases e : h y with
      | none => exact Enumerates.nil fun _ x hx => by simp at hx
      | some x =>
        refine ⟨[()], by simp, fun i => by simp, ?_⟩
        exact List.Forall₂.cons rfl List.Forall₂.nil
    have e : (y :: ys).filterMap h = (h y).toList ++ ys.filterMap h := by
      cases e : h y <;> simp [e]
    rw [e]
    refine hy.append ih (fun _ => 0) (fun k => k + 1) ?_ ?_ ?_ ?_
    · intro _ _ hf
      exact hf.elim
    · intro i j hij
      exact Nat.add_lt_add_right hij 1
    · intro _ k
      exact Nat.succ_pos k
    · intro k x
      cases k with
      | zero => simp
      | succ k => simp

/-- A list made from the entries of another that pass a test. -/
theorem enumerates_map_filter {α β : Type} (p : β → Bool) (g : β → α) (ys : List β) :
    Enumerates (· < ·) (fun (k : Nat) x => ∃ y, ys[k]? = some y ∧ p y = true ∧ x = g y)
      ((ys.filter p).map g) := by
  have e : (ys.filter p).map g = ys.filterMap fun y => if p y then some (g y) else none := by
    rw [← List.filterMap_eq_map, List.filterMap_filter]
    rfl
  rw [e]
  refine (enumerates_filterMap _ ys).congr ?_
  intro k x
  constructor
  · rintro ⟨y, hy, hx⟩
    cases hp : p y with
    | false => simp [hp] at hx
    | true => exact ⟨y, hy, hp, by simpa [hp] using hx.symm⟩
  · rintro ⟨y, hy, hp, rfl⟩
    exact ⟨y, hy, by simp [hp]⟩

/-! ## The scan of one function -/

/-- the counts beside the records are the numbers of these in each category -/
structure Scan.Counted (s : Scan) : Prop where
  universal : s.universal = s.fused.countP (·.category = .universal)
  specific : s.specific = s.fused.countP (·.category = .implementationSpecific)

namespace Scan

theorem fused_fuse (s : Scan) (m : Match) : (s.fuse m).fused = m :: s.fused := by
  unfold fuse
  cases m.category <;> rfl

theorem missed_fuse (s : Scan) (m : Match) : (s.fuse m).missed = s.missed := by
  unfold fuse
  cases m.category <;> rfl

theorem Counted.fuse {s : Scan} (h : s.Counted) (m : Match) : (s.fuse m).Counted := by
  unfold Scan.fuse
  cases hm : m.category with
  | universal => exact ⟨by simp [h.universal, hm], by simp [h.specific, hm]⟩
  | implementationSpecific => exact ⟨by simp [h.universal, hm], by simp [h.specific, hm]⟩

theorem foldl_fuse (ms : List Match) (s : Scan) :
    (ms.foldl fuse s).fused = ms.reverse ++ s.fused ∧ (ms.foldl fuse s).missed = s.missed
    ∧ (s.Counted → (ms.foldl fuse s).Counted) := by
  induction ms generalizing s with
  | nil => exact ⟨rfl, rfl, id⟩
  | cons m ms ih =>
    obtain ⟨hfused, hmissed, hcounted⟩ := ih (s.fuse m)
    refine ⟨?_, ?_, fun h => hcounted (h.fuse m)⟩
    · rw [List.foldl_cons, hfused, fused_fuse, List.reverse_cons, List.append_assoc]
      rfl
    · rw [List.foldl_cons, hmissed, missed_fuse]

theorem foldl_miss (ms : List Miss) (s : Scan) :
    ms.foldl miss s = { s with missed := ms.reverse ++ s.missed } := by
  induction ms generalizing s with
  | nil => rfl
  | cons m ms ih =>
    rw [List.foldl_cons, ih, List.reverse_cons, List.append_assoc]
    rfl

end Scan

namespace Catalog

/-- the fused pairs of the instructions of one function -/
def scanMatches (c : Catalog) (function : String) : List Instruction → List Match
  | a :: b :: rest => c.matchesAt function a b ++ scanMatches c function (b :: rest)
  | _ => []

/-- the missed opportunities of the instructions of one function -/
def scanMisses (c : Catalog) (function : String) : List Instruction → List Miss
  | a :: b :: rest =>
    c.missesAt function a ((a :: b :: rest).take Detector.reach)
      ++ scanMisses c function (b :: rest)
  | _ => []

/-- one step of a scan puts its records before those that there are, and counts them -/
theorem scanAt_records (c : Catalog) (function : String) (s : Scan) (a b : Instruction)
    (window : List Instruction) :
    (c.scanAt function s a b window).fused = (c.matchesAt function a b).reverse ++ s.fused
    ∧ (c.scanAt function s a b window).missed = (c.missesAt function a window).reverse ++ s.missed
    ∧ (s.Counted → (c.scanAt function s a b window).Counted) := by
  unfold scanAt
  obtain ⟨hfused, hmissed, hcounted⟩ := Scan.foldl_fuse (c.matchesAt function a b) s
  rw [Scan.foldl_miss]
  refine ⟨hfused, ?_, fun h => ⟨(hcounted h).universal, (hcounted h).specific⟩⟩
  rw [hmissed]

/-- so does a whole scan -/
theorem scanFrom_records (c : Catalog) (function : String) (s : Scan) (is : List Instruction) :
    (c.scanFrom function s is).fused = (c.scanMatches function is).reverse ++ s.fused
    ∧ (c.scanFrom function s is).missed = (c.scanMisses function is).reverse ++ s.missed
    ∧ (s.Counted → (c.scanFrom function s is).Counted) := by
  fun_induction Catalog.scanFrom c function s is with
  | case1 s a b rest ih =>
    obtain ⟨hfused, hmissed, hcounted⟩ := ih
    obtain ⟨hfusedAt, hmissedAt, hcountedAt⟩ :=
      c.scanAt_records function s a b ((a :: b :: rest).take Detector.reach)
    refine ⟨?_, ?_, fun h => hcounted (hcountedAt h)⟩
    · rw [hfused, hfusedAt, scanMatches, List.reverse_append, List.append_assoc]
    · rw [hmissed, hmissedAt, scanMisses, List.reverse_append, List.append_assoc]
  | case2 is s h =>
    have hfused : c.scanMatches function is = [] := by
      rw [scanMatches]
      exact h
    have hmissed : c.scanMisses function is = [] := by
      rw [scanMisses]
      exact h
    rw [hfused, hmissed]
    exact ⟨rfl, rfl, id⟩

/-- **What a scan finds**: its records, and their numbers. -/
theorem scan_eq (c : Catalog) (f : Function) :
    c.scan f =
      { fused := c.scanMatches f.name f.instructions
        missed := c.scanMisses f.name f.instructions
        tally :=
          { name := f.name
            instructionCount := f.instructions.length
            universal := (c.scanMatches f.name f.instructions).countP (·.category = .universal)
            implementationSpecific :=
              (c.scanMatches f.name f.instructions).countP (·.category = .implementationSpecific)
            missed := (c.scanMisses f.name f.instructions).length } } := by
  obtain ⟨hfused, hmissed, hcounted⟩ := c.scanFrom_records f.name {} f.instructions
  obtain ⟨huniversal, hspecific⟩ := hcounted ⟨rfl, rfl⟩
  unfold scan
  dsimp only
  rw [huniversal, hspecific, hfused, hmissed, List.append_nil, List.append_nil, List.reverse_reverse,
    List.reverse_reverse, List.countP_reverse, List.countP_reverse, List.length_reverse]

section
variable (c : Catalog) (f : Function)

theorem fused_scan : (c.scan f).fused = c.scanMatches f.name f.instructions := by rw [scan_eq]

theorem missed_scan : (c.scan f).missed = c.scanMisses f.name f.instructions := by rw [scan_eq]

theorem universal_scan : (c.scan f).tally.universal
    = ((c.scanMatches f.name f.instructions).countP (·.category = .universal) : Nat) := by
  rw [scan_eq]

theorem specific_scan : (c.scan f).tally.implementationSpecific
    = ((c.scanMatches f.name f.instructions).countP (·.category = .implementationSpecific) : Nat) := by
  rw [scan_eq]

theorem missedCount_scan :
    (c.scan f).tally.missed = ((c.scanMisses f.name f.instructions).length : Nat) := by
  rw [scan_eq]

end

end Catalog

/-! ## The sites of one function -/

namespace Catalog

/-- rule number `r` fuses the instructions at `i` and `i + 1`, and `m` is the record of it -/
def FusedIn (c : Catalog) (function : String) (is : List Instruction) : Nat × Nat → Match → Prop
  | (i, r), m => ∃ a b rule, is[i]? = some a ∧ is[i + 1]? = some b ∧ c.rules[r]? = some rule
      ∧ rule.fuses a b = true
      ∧ m = { function, address := a.address, rule := rule.name, category := rule.category
              pairText := a.raw ++ "  →  " ++ b.raw }

/-- opportunity number `p` is missed at `i`, which has a successor, and `m` is the record of it -/
def MissedIn (c : Catalog) (function : String) (is : List Instruction) : Nat × Nat → Miss → Prop
  | (i, p), m => ∃ a pattern, is[i]? = some a ∧ i + 1 < is.length ∧ c.missed[p]? = some pattern
      ∧ pattern.detector.detects (is.extract i (min (i + 3) is.length)) = true
      ∧ m = { function, address := a.address, pattern := pattern.name, instructionText := a.raw
              fix := pattern.fix }

/-- a window that is cut off at the end of the function -/
theorem extract_window (is : List Instruction) (i : Nat) :
    is.extract i (min (i + 3) is.length) = (is.drop i).take Detector.reach := by
  rw [List.extract_eq_take_drop]
  apply List.take_eq_take_iff.mpr
  rw [List.length_drop]
  show min (min (i + 3) is.length - i) _ = min 3 _
  omega

/-- **The fused pairs of one function**, by position and rule. -/
theorem scanMatches_enumerates (c : Catalog) (function : String) (is : List Instruction) :
    Enumerates (Prod.Lex (· < ·) (· < ·)) (c.FusedIn function is) (c.scanMatches function is) := by
  -- the scan drops one instruction at a time and stops at the last
  fun_induction Catalog.scanMatches c function is with
  | case1 a b rest ih =>
    refine (enumerates_map_filter (fun r : Rule => r.fuses a b) _ c.rules).cons ih ?_ ?_
    · intro r m
      simp [FusedIn]
    · intro i r m
      simp [FusedIn]
  | case2 is h =>
    apply Enumerates.nil
    rintro ⟨i, r⟩ m ⟨a, b, rule, ha, hb, _⟩
    cases is with
    | nil => simp at ha
    | cons a is =>
      cases is with
      | nil => simp at hb
      | cons b is => exact h a b is rfl

/-- **The missed opportunities of one function**, by position and opportunity. -/
theorem scanMisses_enumerates (c : Catalog) (function : String) (is : List Instruction) :
    Enumerates (Prod.Lex (· < ·) (· < ·)) (c.MissedIn function is) (c.scanMisses function is) := by
  fun_induction Catalog.scanMisses c function is with
  | case1 a b rest ih =>
    refine (enumerates_map_filter (fun p : MissedPattern =>
      p.detector.detects ((a :: b :: rest).take Detector.reach)) _ c.missed).cons ih ?_ ?_
    · intro p m
      simp only [MissedIn, extract_window]
      simp
    · intro i p m
      simp only [MissedIn, extract_window]
      simp
  | case2 is h =>
    apply Enumerates.nil
    rintro ⟨i, p⟩ m ⟨a, pattern, _, hlt, _⟩
    cases is with
    | nil => simp at hlt
    | cons a is =>
      cases is with
      | nil => simp at hlt
      | cons b is => exact h a b is rfl

/-! ## The records of one name -/

section
variable {c : Catalog} {function : String} {is : List Instruction}

theorem FusedIn.unique {site : Nat × Nat} {m m' : Match} (h : c.FusedIn function is site m)
    (h' : c.FusedIn function is site m') : m = m' := by
  obtain ⟨a, b, rule, ha, hb, hr, _, rfl⟩ := h
  obtain ⟨a', b', rule', ha', hb', hr', _, rfl⟩ := h'
  obtain rfl : a = a' := Option.some.inj (ha.symm.trans ha')
  obtain rfl : b = b' := Option.some.inj (hb.symm.trans hb')
  obtain rfl : rule = rule' := Option.some.inj (hr.symm.trans hr')
  rfl

theorem MissedIn.unique {site : Nat × Nat} {m m' : Miss} (h : c.MissedIn function is site m)
    (h' : c.MissedIn function is site m') : m = m' := by
  obtain ⟨a, q, ha, _, hq, _, rfl⟩ := h
  obtain ⟨a', q', ha', _, hq', _, rfl⟩ := h'
  obtain rfl : a = a' := Option.some.inj (ha.symm.trans ha')
  obtain rfl : q = q' := Option.some.inj (hq.symm.trans hq')
  rfl

/-- where no two opportunities have one name, the name of a record tells its number -/
theorem MissedIn.number_unique (hc : (c.missed.map (·.name)).Nodup) {i j p q : Nat} {m m' : Miss}
    (h : c.MissedIn function is (i, p) m) (h' : c.MissedIn function is (j, q) m')
    (hm : m.pattern = m'.pattern) : p = q := by
  obtain ⟨a, x, _, _, hx, _, rfl⟩ := h
  obtain ⟨b, y, _, _, hy, _, rfl⟩ := h'
  have hlt : p < (c.missed.map (·.name)).length := by
    rw [List.length_map]
    exact (List.getElem?_eq_some_iff.mp hx).1
  apply (List.getElem?_inj hlt hc).mp
  rw [List.getElem?_map, List.getElem?_map, hx, hy]
  exact congrArg some hm

/-- the records of one name, by position -/
theorem misses_named_enumerates (hc : (c.missed.map (·.name)).Nodup) (name : String) :
    Enumerates (· < ·) (fun i m => (∃ q, c.MissedIn function is (i, q) m) ∧ m.pattern = name)
      ((c.scanMisses function is).filter (·.pattern = name)) := by
  have hall := (c.scanMisses_enumerates function is).filter (fun _ _ _ => MissedIn.unique)
    (fun m => decide (m.pattern = name))
  refine hall.reindex Prod.fst ?_ ?_
  · rintro ⟨i, p⟩ ⟨j, q⟩ x y ⟨hx, hxn⟩ ⟨hy, hyn⟩ hlt
    have hnames : x.pattern = y.pattern := (of_decide_eq_true hxn).trans (of_decide_eq_true hyn).symm
    obtain rfl : p = q := MissedIn.number_unique hc hx hy hnames
    rcases Prod.lex_def.mp hlt with h | ⟨_, h⟩
    · exact h
    · exact absurd h (Nat.lt_irrefl p)
  · intro i m
    constructor
    · rintro ⟨⟨q, hq⟩, hm⟩
      exact ⟨(i, q), rfl, hq, decide_eq_true hm⟩
    · rintro ⟨⟨_, q⟩, rfl, hq, hm⟩
      exact ⟨⟨q, hq⟩, of_decide_eq_true hm⟩

end

end Catalog

/-! ## The scans of all functions -/

namespace Pool
variable {α β : Type}

/-- a task that has finished is looked up by its position -/
theorem lookup_done (task : α → β) (items : List α) (finished : List Nat) (i : Nat) (x : α)
    (hx : items[i]? = some x) (hi : i ∈ finished) :
    (finished.filterMap fun j => items[j]?.map fun item => (j, task item)).lookup i
      = some (task x) := by
  induction finished with
  | nil => exact absurd hi (by simp)
  | cons j finished ih =>
    by_cases e : i = j
    · rw [← e, List.filterMap_cons, hx]
      simp
    · have hi' : i ∈ finished := (List.mem_cons.mp hi).resolve_left e
      rw [List.filterMap_cons]
      cases hj : items[j]? with
      | none => exact ih hi'
      | some y =>
        have hb : (i == j) = false := by simpa using e
        show List.lookup i ((j, task y) :: _) = _
        rw [List.lookup_cons, hb]
        exact ih hi'

theorem filterMap_range (task : α → β) (items : List α) :
    ((List.range items.length).filterMap fun i => items[i]?.map task) = items.map task := by
  induction items with
  | nil => rfl
  | cons x items ih =>
    rw [List.length_cons, List.range_succ_eq_map, List.filterMap_cons, List.filterMap_map]
    show task x :: List.filterMap (fun i => items[i]?.map task) _ = _
    rw [ih, List.map_cons]

/-- **A pool gives what a plain map gives**, in whatever order its tasks finish. -/
theorem map_eq (task : α → β) (items : List α) (finished : List Nat)
    (h : ∀ i < items.length, i ∈ finished) : Pool.map finished task items = items.map task := by
  have e : Pool.map finished task items
      = (List.range items.length).filterMap fun i => items[i]?.map task := by
    unfold Pool.map
    apply List.filterMap_congr
    intro i hi
    have hlt : i < items.length := List.mem_range.mp hi
    rw [List.getElem?_eq_getElem hlt]
    exact lookup_done task items finished i _ (List.getElem?_eq_getElem hlt) (h i hlt)
  rw [e, filterMap_range]

end Pool

namespace Analysis

/-- Workers change nothing, in whatever order they finish. -/
theorem scanFinishing_eq (c : Catalog) (workers : Nat) (finished : List Nat)
    (functions : List Function) (h : ∀ i < functions.length, i ∈ finished) :
    scanFinishing c workers finished functions = functions.map c.scan := by
  unfold scanFinishing
  split
  · exact Pool.map_eq c.scan functions finished h
  · rfl

theorem scanAll_eq (c : Catalog) (workers : Nat) (functions : List Function) :
    scanAll c workers functions = functions.map c.scan :=
  scanFinishing_eq c workers _ functions fun _ hi => List.mem_range.mpr hi

/-- rule `r` of the catalog fuses the instructions at `i` and `i + 1` of function `k`, and `m` is the
record of it -/
def FusedAt (c : Catalog) (functions : List Function) : Nat × Nat × Nat → Match → Prop
  | (k, i, r), m => ∃ f, functions[k]? = some f ∧ c.FusedIn f.name f.instructions (i, r) m

/-- opportunity `p` of the catalog is missed at `i` in function `k`, and `m` is the record of it -/
def MissedAt (c : Catalog) (functions : List Function) : Nat × Nat × Nat → Miss → Prop
  | (k, i, p), m => ∃ f, functions[k]? = some f ∧ c.MissedIn f.name f.instructions (i, p) m

/-- sites in order: by function, then by position, then by rule or opportunity -/
def Before : Nat × Nat × Nat → Nat × Nat × Nat → Prop :=
  Prod.Lex (· < ·) (Prod.Lex (· < ·) (· < ·))

/-- **The records of an analysis, site by site.**  Whatever is selected and however many workers there
are, the fused pairs are the records at the sites where a rule fuses an instruction with its successor
in the same function, and the missed opportunities those at the sites where a detector sees one. -/
theorem run_enumerates (c : Catalog) (workers : Nat) (functions : List Function)
    (filter : Option String) (lowConfidence : Bool) (warnings : List String) :
    Enumerates Before (FusedAt c (select filter functions))
      (run c workers functions filter lowConfidence warnings).fused
    ∧ Enumerates Before (MissedAt c (select filter functions))
      (run c workers functions filter lowConfidence warnings).missed := by
  have hf : (run c workers functions filter lowConfidence warnings).fused
      = (select filter functions).flatMap fun f => c.scanMatches f.name f.instructions := by
    show (scanAll c workers (select filter functions)).flatMap (·.fused) = _
    rw [scanAll_eq, List.flatMap_map]
    simp only [Catalog.fused_scan]
  have hm : (run c workers functions filter lowConfidence warnings).missed
      = (select filter functions).flatMap fun f => c.scanMisses f.name f.instructions := by
    show (scanAll c workers (select filter functions)).flatMap (·.missed) = _
    rw [scanAll_eq, List.flatMap_map]
    simp only [Catalog.missed_scan]
  rw [hf, hm]
  constructor
  · refine (Enumerates.flatMap _ fun f : Function =>
      c.scanMatches_enumerates f.name f.instructions).congr ?_
    rintro ⟨k, i, r⟩ m
    exact Iff.rfl
  · refine (Enumerates.flatMap _ fun f : Function =>
      c.scanMisses_enumerates f.name f.instructions).congr ?_
    rintro ⟨k, i, p⟩ m
    exact Iff.rfl

end Analysis

end MacroFusion
