import Mathlib.Algebra.BigOperators.Group.List.Basic
import Mathlib.Algebra.Order.Ring.Int
import Mathlib.Data.List.Induction
import MacroFusion.Proofs.Analysis.Sites
import MacroFusion.Proofs.Summary.Shares

/-!
# Balance: the counts of an analysis agree with its records

A scan counts its findings beside the records that it makes of them, the counts of functions with one
name are put together later on, and a summary ranks what is left.  None of these steps looks at the
records again.

* `Tally.ofName`              the counts of all functions of a name, put together at once;
* `lookup_foldl_merge`, `keys_foldl_merge`   merging one tally after the other gives these, under the
                              names in the order in which they first come;
* `Counted`                   a count that goes with records: as many for each function as it counts,
                              all under the name of the function;
* `Counted.sum_tallies`, `Counted.sum_tallies_named`   such counts add up to the number of records, over
                              all functions and over those of one name;
* `sum_total_worst`           a ranking that is long enough loses no finding;
* `run_balanced`              the agreement at every level (`Balanced`), for every analysis.
-/

namespace MacroFusion

theorem mem_distinct {name : String} {names : List String} :
    name ∈ distinct names ↔ name ∈ names := List.mem_eraseDups

theorem distinct_concat (names : List String) (name : String) :
    distinct (names ++ [name]) = if name ∈ names then distinct names else distinct names ++ [name] := by
  unfold distinct
  rw [List.eraseDups_append, List.removeAll]
  by_cases h : name ∈ names
  · simp [h]
  · simp [h, List.eraseDups_cons]

/-! ## Tallies of one name -/

namespace Tally

/-- the counts of all tallies of a name together -/
def ofName (name : String) (ts : List Tally) : Tally :=
  { name
    instructionCount := ((ts.filter (·.name = name)).map (·.instructionCount)).sum
    universal := ((ts.filter (·.name = name)).map (·.universal)).sum
    implementationSpecific := ((ts.filter (·.name = name)).map (·.implementationSpecific)).sum
    missed := ((ts.filter (·.name = name)).map (·.missed)).sum }

theorem ofName_concat_of_ne {name : String} {t : Tally} (h : t.name ≠ name) (ts : List Tally) :
    ofName name (ts ++ [t]) = ofName name ts := by
  simp [ofName, h]

theorem ofName_concat_self (ts : List Tally) (t : Tally) :
    ofName t.name (ts ++ [t]) = (ofName t.name ts).add t := by
  simp [ofName, add]

theorem ofName_concat_of_not_mem {ts : List Tally} {t : Tally} (h : t.name ∉ ts.map (·.name)) :
    ofName t.name (ts ++ [t]) = t := by
  have hf : ts.filter (·.name = t.name) = [] := by
    rw [List.filter_eq_nil_iff]
    intro s hs he
    exact h (List.mem_map.mpr ⟨s, hs, by simpa using he⟩)
  simp [ofName, hf]

end Tally

namespace Analysis

theorem keys_merge (d : Dictionary Tally) (t : Tally) :
    (merge d t).keys = if t.name ∈ d.keys then d.keys else d.keys ++ [t.name] := by
  unfold merge
  cases hl : d.lookup t.name with
  | none =>
    have hk : t.name ∉ d.keys := Dictionary.lookup_eq_none_iff.mp hl
    rw [if_neg hk]
    exact Dictionary.keys_put_of_not_mem hk t
  | some seen =>
    have hk : t.name ∈ d.keys := Dictionary.mem_keys_iff.mpr (by rw [hl]; rfl)
    rw [if_pos hk]
    exact Dictionary.keys_put_of_mem hk _

theorem lookup_merge_of_ne {name : String} {t : Tally} (h : name ≠ t.name) (d : Dictionary Tally) :
    (merge d t).lookup name = d.lookup name := by
  unfold merge
  split <;> exact Dictionary.lookup_put_of_ne h _ d

theorem lookup_merge_self (d : Dictionary Tally) (t : Tally) :
    (merge d t).lookup t.name = some (match d.lookup t.name with
      | some seen => { seen.add t with name := t.name }
      | none => t) := by
  unfold merge
  cases d.lookup t.name with
  | none => exact Dictionary.lookup_put_self _ _ d
  | some seen => exact Dictionary.lookup_put_self _ _ d

theorem keys_foldl_merge (ts : List Tally) :
    (ts.foldl merge []).keys = distinct (ts.map (·.name)) := by
  induction ts using List.reverseRecOn with
  | nil => rfl
  | append_singleton ts t ih =>
    rw [List.foldl_concat, keys_merge, ih, List.map_append]
    show _ = distinct (ts.map (·.name) ++ [t.name])
    rw [distinct_concat]
    simp only [mem_distinct]

/-- Merging one tally after the other puts the counts of each name together. -/
theorem lookup_foldl_merge {ts : List Tally} {name : String} (h : name ∈ ts.map (·.name)) :
    (ts.foldl merge []).lookup name = some (Tally.ofName name ts) := by
  induction ts using List.reverseRecOn with
  | nil => exact absurd h (by simp)
  | append_singleton ts t ih =>
    rw [List.foldl_concat]
    by_cases hn : name = t.name
    · rw [hn, lookup_merge_self]
      by_cases hm : t.name ∈ ts.map (·.name)
      · rw [← hn] at hm ⊢
        rw [ih hm, hn, Tally.ofName_concat_self]
        rfl
      · have hl : (ts.foldl merge []).lookup t.name = none := by
          rw [Dictionary.lookup_eq_none_iff, keys_foldl_merge, mem_distinct]
          exact hm
        rw [hl, Tally.ofName_concat_of_not_mem hm]
    · have hm : name ∈ ts.map (·.name) := by
        rw [List.map_append, List.mem_append] at h
        exact h.resolve_right fun he => hn (by simpa using he)
      rw [lookup_merge_of_ne hn, ih hm, Tally.ofName_concat_of_ne (fun e => hn e.symm)]

end Analysis

/-! ## Counts that go with records -/

namespace Catalog

theorem function_of_mem_scanMatches {c : Catalog} {function : String} {is : List Instruction}
    {m : Match} (h : m ∈ c.scanMatches function is) : m.function = function := by
  obtain ⟨⟨i, k⟩, a, b, r, -, -, -, -, rfl⟩ := (c.scanMatches_enumerates function is).exists_of_mem h
  rfl

theorem function_of_mem_scanMisses {c : Catalog} {function : String} {is : List Instruction}
    {m : Miss} (h : m ∈ c.scanMisses function is) : m.function = function := by
  obtain ⟨⟨i, k⟩, a, p, -, -, -, -, rfl⟩ := (c.scanMisses_enumerates function is).exists_of_mem h
  rfl

/-- the rules of a kind, on their own, find the pairs of that kind -/
theorem filter_scanMatches (c : Catalog) (kind : String → Category → Bool) (function : String)
    (is : List Instruction) :
    (c.scanMatches function is).filter (fun m => kind m.rule m.category)
      = { c with rules := c.rules.filter fun r => kind r.name r.category }.scanMatches function is := by
  induction is with
  | nil => rfl
  | cons a is ih =>
    cases is with
    | nil => rfl
    | cons b rest =>
      rw [scanMatches, scanMatches, List.filter_append, ih]
      congr 1
      unfold matchesAt
      rw [List.filter_map, List.filter_filter, List.filter_filter]
      congr 2
      funext r
      exact Bool.and_comm _ _

/-- the opportunities of a kind, on their own, find the misses of that kind -/
theorem filter_scanMisses (c : Catalog) (kind : String → Bool) (function : String)
    (is : List Instruction) :
    (c.scanMisses function is).filter (fun m => kind m.pattern)
      = { c with missed := c.missed.filter fun p => kind p.name }.scanMisses function is := by
  induction is with
  | nil => rfl
  | cons a is ih =>
    cases is with
    | nil => rfl
    | cons b rest =>
      rw [scanMisses, scanMisses, List.filter_append, ih]
      congr 1
      unfold missesAt
      rw [List.filter_map, List.filter_filter, List.filter_filter]
      congr 2
      funext p
      exact Bool.and_comm _ _

/-- at most every rule fires at every instruction -/
theorem length_scanMatches_le_mul (c : Catalog) (function : String) (is : List Instruction) :
    (c.scanMatches function is).length ≤ c.rules.length * is.length := by
  fun_induction Catalog.scanMatches c function is with
  | case1 a b rest ih =>
    have hat : (c.matchesAt function a b).length ≤ c.rules.length := by
      unfold matchesAt
      rw [List.length_map]
      exact List.length_filter_le _ _
    rw [List.length_append, List.length_cons, Nat.mul_succ]
    omega
  | case2 is hi => exact Nat.zero_le _

/-- a bound on the pairs of each function bounds those of several -/
theorem length_flatMap_scanMatches_le {c : Catalog} {a b : Nat}
    (h : ∀ f : Function, a * (c.scanMatches f.name f.instructions).length ≤ b * f.instructions.length)
    (fs : List Function) :
    a * (fs.flatMap fun f => c.scanMatches f.name f.instructions).length
      ≤ b * (fs.map fun f => f.instructions.length).sum := by
  induction fs with
  | nil => exact Nat.zero_le _
  | cons f fs ih =>
    have hf := h f
    rw [List.flatMap_cons, List.length_append, List.map_cons, List.sum_cons, Nat.mul_add, Nat.mul_add]
    omega

/-- `count` counts the `records` of each function, and all of them name the function as their owner -/
structure Counted {α : Type} (c : Catalog) (count : Tally → Int) (owner : α → String)
    (records : Function → List α) : Prop where
  count_eq : ∀ f, count (c.scan f).tally = (records f).length
  owner_eq : ∀ f, ∀ x ∈ records f, owner x = f.name

namespace Counted
variable {α : Type} {c : Catalog} {count : Tally → Int} {owner : α → String}
  {records : Function → List α}

theorem sum_tallies (h : Counted c count owner records) (fs : List Function) :
    ((fs.map fun f => (c.scan f).tally).map count).sum = (fs.flatMap records).length := by
  induction fs with
  | nil => rfl
  | cons f fs ih =>
    rw [List.map_cons, List.map_cons, List.sum_cons, ih, h.count_eq, List.flatMap_cons,
      List.length_append, Int.natCast_add]

/-- the records of one function are all for its own name, or none is -/
theorem countP_records (h : Counted c count owner records) (f : Function) (name : String) :
    (records f).countP (owner · = name) = if f.name = name then (records f).length else 0 := by
  by_cases hn : f.name = name
  · rw [if_pos hn, List.countP_eq_length]
    intro x hx
    rw [h.owner_eq f x hx]
    exact decide_eq_true hn
  · rw [if_neg hn, List.countP_eq_zero]
    intro x hx
    rw [h.owner_eq f x hx]
    simpa using hn

theorem sum_tallies_named (h : Counted c count owner records) (fs : List Function) (name : String) :
    (((fs.map fun f => (c.scan f).tally).filter (·.name = name)).map count).sum
      = ((fs.flatMap records).countP (owner · = name) : Nat) := by
  induction fs with
  | nil => rfl
  | cons f fs ih =>
    rw [List.map_cons, List.flatMap_cons, List.countP_append, Int.natCast_add, ← ih,
      h.countP_records]
    show ((List.filter _ ((c.scan f).tally :: _)).map count).sum = _
    rw [List.filter_cons]
    show ((if decide (f.name = name) = true then _ else _ : List Tally).map count).sum = _
    by_cases hn : f.name = name
    · rw [if_pos hn, if_pos (decide_eq_true hn), List.map_cons, List.sum_cons, h.count_eq]
    · rw [if_neg hn, if_neg (by simpa using hn), Int.natCast_zero, Int.zero_add]

end Counted

/-- the fused pairs of one category -/
theorem counted_matches (c : Catalog) (category : Category) {count : Tally → Int}
    (h : ∀ f, count (c.scan f).tally
      = ((c.scanMatches f.name f.instructions).countP (·.category = category) : Nat)) :
    Counted c count Match.function
      fun f => (c.scanMatches f.name f.instructions).filter (·.category = category) where
  count_eq := by
    intro f
    rw [h, List.countP_eq_length_filter]
  owner_eq := by
    intro f m hm
    exact function_of_mem_scanMatches (List.mem_filter.mp hm).1

theorem counted_misses (c : Catalog) :
    Counted c Tally.missed Miss.function fun f => c.scanMisses f.name f.instructions where
  count_eq := c.missedCount_scan
  owner_eq := fun _ _ hm => function_of_mem_scanMisses hm

end Catalog

/-! ## The analysis of some functions -/

namespace Analysis

/-- the analysis of just these functions, scanned one after the other -/
def ofFunctions (c : Catalog) (fs : List Function) (lowConfidence : Bool) (warnings : List String) :
    Analysis := ofFindings c (fs.map c.scan) lowConfidence warnings

theorem run_eq (c : Catalog) (workers : Nat) (functions : List Function) (filter : Option String)
    (lowConfidence : Bool) (warnings : List String) :
    run c workers functions filter lowConfidence warnings
      = ofFunctions c (select filter functions) lowConfidence warnings := by
  unfold run
  rw [scanAll_eq]
  rfl

section
variable (c : Catalog) (fs : List Function) (lowConfidence : Bool) (warnings : List String)

theorem perFunction_ofFunctions :
    (ofFunctions c fs lowConfidence warnings).perFunction = fs.map fun f => (c.scan f).tally := by
  show (fs.map c.scan).map (·.tally) = _
  rw [List.map_map]
  rfl

theorem fused_ofFunctions :
    (ofFunctions c fs lowConfidence warnings).fused
      = fs.flatMap fun f => c.scanMatches f.name f.instructions := by
  show (fs.map c.scan).flatMap (·.fused) = _
  rw [List.flatMap_map]
  simp only [Catalog.fused_scan]

theorem filter_fused_ofFunctions (category : Category) :
    (ofFunctions c fs lowConfidence warnings).fused.filter (·.category = category)
      = fs.flatMap fun f =>
          (c.scanMatches f.name f.instructions).filter (·.category = category) := by
  rw [fused_ofFunctions, List.filter_flatMap]

theorem missed_ofFunctions :
    (ofFunctions c fs lowConfidence warnings).missed
      = fs.flatMap fun f => c.scanMisses f.name f.instructions := by
  show (fs.map c.scan).flatMap (·.missed) = _
  rw [List.flatMap_map]
  simp only [Catalog.missed_scan]

theorem totalInstructions_ofFunctions :
    (ofFunctions c fs lowConfidence warnings).totalInstructions
      = ((fs.map fun f => f.instructions.length).sum : Nat) := by
  show (fs.map c.scan).foldr (fun f n => f.tally.instructionCount + n) 0 = _
  induction fs with
  | nil => rfl
  | cons f fs ih =>
    rw [List.map_cons, List.foldr_cons, ih, List.map_cons, List.sum_cons, Int.natCast_add]
    rfl

theorem sum_instructionCount :
    ((fs.map fun f => (c.scan f).tally).map (·.instructionCount)).sum
      = ((fs.map fun f => f.instructions.length).sum : Nat) := by
  induction fs with
  | nil => rfl
  | cons f fs ih =>
    rw [List.map_cons, List.map_cons, List.sum_cons, ih, List.map_cons, List.sum_cons,
      Int.natCast_add]
    rfl

theorem sum_universal_tallies :
    ((fs.map fun f => (c.scan f).tally).map (·.universal)).sum
      = (ofFunctions c fs lowConfidence warnings).universalMatches.length := by
  rw [(c.counted_matches .universal c.universal_scan).sum_tallies, universalMatches,
    filter_fused_ofFunctions]

theorem sum_specific_tallies :
    ((fs.map fun f => (c.scan f).tally).map (·.implementationSpecific)).sum
      = (ofFunctions c fs lowConfidence warnings).specificMatches.length := by
  rw [(c.counted_matches .implementationSpecific c.specific_scan).sum_tallies, specificMatches,
    filter_fused_ofFunctions]

theorem sum_missed_tallies :
    ((fs.map fun f => (c.scan f).tally).map (·.missed)).sum
      = (ofFunctions c fs lowConfidence warnings).missed.length := by
  rw [c.counted_misses.sum_tallies, missed_ofFunctions]

theorem sum_total_tallies :
    ((fs.map fun f => (c.scan f).tally).map Tally.total).sum
      = (ofFunctions c fs lowConfidence warnings).universalMatches.length
        + (ofFunctions c fs lowConfidence warnings).specificMatches.length
        + (ofFunctions c fs lowConfidence warnings).missed.length := by
  rw [← sum_universal_tallies, ← sum_specific_tallies, ← sum_missed_tallies, ← List.sum_map_add,
    ← List.sum_map_add]
  rfl

/-- the counts of one name, as its records give them -/
theorem ofName_tallies (name : String) :
    Tally.ofName name (fs.map fun f => (c.scan f).tally)
      = { name
          instructionCount :=
            (((fs.filter (·.name = name)).map fun f => f.instructions.length).sum : Nat)
          universal := (ofFunctions c fs lowConfidence warnings).universalMatches.countP
            (·.function = name)
          implementationSpecific := (ofFunctions c fs lowConfidence warnings).specificMatches.countP
            (·.function = name)
          missed := (ofFunctions c fs lowConfidence warnings).missed.countP (·.function = name) } := by
  have hi : (((fs.map fun f => (c.scan f).tally).filter (·.name = name)).map
      (·.instructionCount)).sum
      = (((fs.filter (·.name = name)).map fun f => f.instructions.length).sum : Nat) := by
    rw [List.filter_map]
    exact sum_instructionCount c (fs.filter (·.name = name))
  unfold Tally.ofName universalMatches specificMatches
  rw [hi, (c.counted_matches .universal c.universal_scan).sum_tallies_named,
    (c.counted_matches .implementationSpecific c.specific_scan).sum_tallies_named,
    c.counted_misses.sum_tallies_named, filter_fused_ofFunctions, filter_fused_ofFunctions,
    missed_ofFunctions]

end

theorem total_nonneg (c : Catalog) (f : Function) : 0 ≤ (c.scan f).tally.total := by
  unfold Tally.total
  have hu := c.universal_scan f
  have hs := c.specific_scan f
  have hm := c.missedCount_scan f
  omega

end Analysis

/-! ## Rankings of functions -/

namespace Summary

/-- A ranking with room for all functions leaves out only those without findings. -/
theorem sum_total_worst {ts : List Tally} {top : Nat} (h : ts.length ≤ top)
    (hn : ∀ t ∈ ts, 0 ≤ t.total) :
    ((worst top ts).map Tally.total).sum = (ts.map Tally.total).sum := by
  have hlen : ((ts.filter fun t => 0 < t.total).mergeSort fun s t => t.total ≤ s.total).length
      ≤ top := by
    rw [List.length_mergeSort]
    exact Nat.le_trans (List.length_filter_le _ ts) h
  unfold worst
  rw [List.take_of_length_le hlen, ((List.mergeSort_perm _ _).map Tally.total).sum_eq]
  clear h hlen
  induction ts with
  | nil => rfl
  | cons t ts ih =>
    have ih' := ih fun s hs => hn s (List.mem_cons_of_mem _ hs)
    have ht := hn t List.mem_cons_self
    rw [List.filter_cons, List.map_cons, List.sum_cons, ← ih']
    by_cases hz : 0 < t.total
    · rw [if_pos (decide_eq_true hz), List.map_cons, List.sum_cons]
    · have hz' : t.total = 0 := by omega
      rw [if_neg (by simpa using hz), hz', Int.zero_add]

end Summary

/-! ## The balance -/

namespace Analysis

/-- **Counts and records agree**, where `fs` are the functions that were scanned. -/
structure Balanced (fs : List Function) (a : Analysis) : Prop where
  totalInstructions_eq : a.totalInstructions = (a.perFunction.map (·.instructionCount)).sum
  sum_universal : (a.perFunction.map (·.universal)).sum = a.universalMatches.length
  sum_specific : (a.perFunction.map (·.implementationSpecific)).sum = a.specificMatches.length
  sum_missed : (a.perFunction.map (·.missed)).sum = a.missed.length
  /-- every name that was scanned comes once, in the order in which the names first came -/
  keys_byFunction : a.byFunction.keys = distinct (fs.map (·.name))
  lookup_byFunction : ∀ name ∈ fs.map (·.name), a.byFunction.lookup name = some
    { name
      instructionCount :=
        (((fs.filter (·.name = name)).map fun f => f.instructions.length).sum : Nat)
      universal := a.universalMatches.countP (·.function = name)
      implementationSpecific := a.specificMatches.countP (·.function = name)
      missed := a.missed.countP (·.function = name) }
  /-- there is a summary, unless the counts are out of range -/
  summary_ok : ∀ (config : Config) (c : Catalog), 0 < a.totalInstructions → a.Countable →
    ∃ s, Summary.ofAnalysis a config c = .ok s
  /-- and a breakdown with room for all functions shows every finding once -/
  sum_worst : ∀ (config : Config) (c : Catalog) (s : Summary), 0 < a.totalInstructions →
    a.perFunction.length ≤ config.topFunctions → Summary.ofAnalysis a config c = .ok s →
    (s.worstFunctions.map Tally.total).sum = s.savedDecodeSlots + s.missed

theorem sum_worst_ofFunctions {c : Catalog} {fs : List Function} {lowConfidence : Bool}
    {warnings : List String} {config : Config} {c' : Catalog} {s : Summary}
    (hpos : 0 < (ofFunctions c fs lowConfidence warnings).totalInstructions)
    (htop : (ofFunctions c fs lowConfidence warnings).perFunction.length ≤ config.topFunctions)
    (hok : Summary.ofAnalysis (ofFunctions c fs lowConfidence warnings) config c' = .ok s) :
    (s.worstFunctions.map Tally.total).sum = s.savedDecodeSlots + s.missed := by
  by_cases hc : (ofFunctions c fs lowConfidence warnings).Countable
  · obtain ⟨x, y, hok'⟩ := Summary.ofAnalysis_of_countable hpos hc config c'
    have e : Summary.ofShares _ config c' x y = s := Except.ok.inj (hok'.symm.trans hok)
    have hn : ∀ t ∈ (ofFunctions c fs lowConfidence warnings).perFunction, 0 ≤ t.total := by
      rw [perFunction_ofFunctions]
      intro t ht
      obtain ⟨f, _, rfl⟩ := List.mem_map.mp ht
      exact total_nonneg c f
    rw [← e]
    show ((Summary.worst _ _).map Tally.total).sum = _
    rw [Summary.sum_total_worst htop hn, perFunction_ofFunctions,
      sum_total_tallies c fs lowConfidence warnings]
    rfl
  · rw [Summary.ofAnalysis_of_not_countable hpos hc] at hok
    cases hok

/-- **The balance of an analysis**, whatever is selected and however many workers there are. -/
theorem run_balanced (c : Catalog) (workers : Nat) (functions : List Function)
    (filter : Option String) (lowConfidence : Bool) (warnings : List String) :
    Balanced (select filter functions) (run c workers functions filter lowConfidence warnings) := by
  rw [run_eq]
  generalize select filter functions = fs
  have hp := perFunction_ofFunctions c fs lowConfidence warnings
  have hnames : (fs.map fun f => (c.scan f).tally).map (·.name) = fs.map (·.name) := by
    rw [List.map_map]
    rfl
  refine ⟨?_, ?_, ?_, ?_, ?_, ?_, ?_, ?_⟩
  · rw [hp, sum_instructionCount, totalInstructions_ofFunctions]
  · rw [hp, sum_universal_tallies c fs lowConfidence warnings]
  · rw [hp, sum_specific_tallies c fs lowConfidence warnings]
  · rw [hp, sum_missed_tallies c fs lowConfidence warnings]
  · rw [byFunction, hp, keys_foldl_merge, hnames]
  · intro name hn
    rw [byFunction, hp, lookup_foldl_merge (by rw [hnames]; exact hn),
      ofName_tallies c fs lowConfidence warnings]
  · intro config c' hpos hc
    obtain ⟨x, y, hok⟩ := Summary.ofAnalysis_of_countable hpos hc config c'
    exact ⟨_, hok⟩
  · intro config c' s hpos htop hok
    exact sum_worst_ofFunctions hpos htop hok

end Analysis

end MacroFusion
