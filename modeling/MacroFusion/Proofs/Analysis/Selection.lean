import Mathlib.Data.List.Infix
import MacroFusion.Proofs.Analysis.Balance

/-!
# Selection: what a filter leaves of an analysis

A filter picks the functions to scan before anything is scanned.  Every record names the function it was
found in, so the same records are left if everything is scanned and the filter picks among the records.
Workers have no say in this: a pool hands out its results in the order of the functions, in whatever order
its tasks finish.

* `select_some`            what a filter picks, by the names of the functions;
* `filter_flatMap_owner`   picking functions first, or picking their records afterwards;
* `runFinishing_eq`        neither the number of workers nor the order in which they finish matters;
* `runFinishing_selects`   the filtered analysis as a part of the whole one.
-/

namespace MacroFusion.Analysis

theorem select_some (text : String) (fs : List Function) :
    select (some text) fs = fs.filter fun f => text.toList <:+: f.name.toList := by
  have hpart : ∀ f ∈ fs, Text.isPartOf text f.name = decide (text.toList <:+: f.name.toList) := by
    intro f _
    rw [Bool.eq_iff_iff, Text.isPartOf_iff, decide_eq_true_iff]
  show (if text.isEmpty = true then fs else fs.filter fun f => Text.isPartOf text f.name) = _
  rw [List.filter_congr hpart]
  by_cases he : text = ""
  · -- the empty text is part of every name
    have hall : ∀ f ∈ fs, decide (text.toList <:+: f.name.toList) = true := by
      intro f _
      rw [he]
      exact decide_eq_true List.nil_infix
    rw [if_pos (String.isEmpty_iff.mpr he), List.filter_eq_self.mpr hall]
  · rw [if_neg fun h => he (String.isEmpty_iff.mp h)]

/-- records that name their function can be picked before or after they are put together -/
theorem filter_flatMap_owner {α : Type} {records : Function → List α} {owner : α → String}
    (h : ∀ f, ∀ x ∈ records f, owner x = f.name) (p : String → Bool) (fs : List Function) :
    (fs.filter fun f => p f.name).flatMap records = (fs.flatMap records).filter fun x => p (owner x) := by
  induction fs with
  | nil => rfl
  | cons f fs ih =>
    have hf : ∀ x ∈ records f, p (owner x) = p f.name := fun x hx => congrArg p (h f x hx)
    rw [List.flatMap_cons, List.filter_append, List.filter_congr hf, ← ih, List.filter_cons]
    cases p f.name with
    | false => simp
    | true => simp

/-- picking functions by name before the scan, or records and tallies after it -/
theorem ofFunctions_filter (c : Catalog) (p : String → Bool) (fs : List Function)
    (lowConfidence : Bool) (warnings : List String) :
    let whole := ofFunctions c fs lowConfidence warnings
    let tallies := whole.perFunction.filter fun t => p t.name
    ofFunctions c (fs.filter fun f => p f.name) lowConfidence warnings
      = { whole with
          totalInstructions := (tallies.map (·.instructionCount)).sum
          fused := whole.fused.filter fun m => p m.function
          missed := whole.missed.filter fun m => p m.function
          perFunction := tallies } := by
  intro whole tallies
  let part := ofFunctions c (fs.filter fun f => p f.name) lowConfidence warnings
  have htallies : tallies = (fs.filter fun f => p f.name).map fun f => (c.scan f).tally := by
    show (ofFunctions c fs lowConfidence warnings).perFunction.filter _ = _
    rw [perFunction_ofFunctions, List.filter_map]
    rfl
  have hper : part.perFunction = tallies := by
    rw [htallies]
    exact perFunction_ofFunctions c _ lowConfidence warnings
  have htotal : part.totalInstructions = (tallies.map (·.instructionCount)).sum := by
    rw [htallies, sum_instructionCount]
    exact totalInstructions_ofFunctions c _ lowConfidence warnings
  have hfused : part.fused = whole.fused.filter fun m => p m.function := by
    show (ofFunctions c _ lowConfidence warnings).fused
      = (ofFunctions c fs lowConfidence warnings).fused.filter _
    rw [fused_ofFunctions, fused_ofFunctions]
    exact filter_flatMap_owner (fun _ _ hm => Catalog.function_of_mem_scanMatches hm) p fs
  have hmissed : part.missed = whole.missed.filter fun m => p m.function := by
    show (ofFunctions c _ lowConfidence warnings).missed
      = (ofFunctions c fs lowConfidence warnings).missed.filter _
    rw [missed_ofFunctions, missed_ofFunctions]
    exact filter_flatMap_owner (fun _ _ hm => Catalog.function_of_mem_scanMisses hm) p fs
  rw [← htotal, ← hper, ← hfused, ← hmissed]
  rfl

theorem runFinishing_eq (c : Catalog) (workers : Nat) (finished : List Nat)
    (functions : List Function) (filter : Option String) (lowConfidence : Bool)
    (warnings : List String) (h : ∀ i < (select filter functions).length, i ∈ finished) :
    runFinishing c workers finished functions filter lowConfidence warnings
      = ofFunctions c (select filter functions) lowConfidence warnings := by
  unfold runFinishing
  rw [scanFinishing_eq c workers finished _ h]
  rfl

/-- **Filters and workers only select.**  However many workers there are and in whatever order they
finish, the analysis under a filter holds those records and tallies of the analysis of all functions by
one worker whose function name contains the filter, in their order, and counts the instructions of these
tallies. -/
theorem runFinishing_selects (c : Catalog) (workers : Nat) (finished : List Nat)
    (functions : List Function) (text : String) (lowConfidence : Bool) (warnings : List String)
    (h : finished.Perm (List.range (select (some text) functions).length)) :
    let whole := run c 1 functions none lowConfidence warnings
    let tallies := whole.perFunction.filter fun t => text.toList <:+: t.name.toList
    runFinishing c workers finished functions (some text) lowConfidence warnings
      = { whole with
          totalInstructions := (tallies.map (·.instructionCount)).sum
          fused := whole.fused.filter fun m => text.toList <:+: m.function.toList
          missed := whole.missed.filter fun m => text.toList <:+: m.function.toList
          perFunction := tallies } := by
  have hdone : ∀ i < (select (some text) functions).length, i ∈ finished := by
    intro i hi
    exact h.mem_iff.mpr (List.mem_range.mpr hi)
  rw [runFinishing_eq c workers finished functions _ lowConfidence warnings hdone, select_some, run_eq]
  exact ofFunctions_filter c (fun name => text.toList <:+: name.toList) functions lowConfidence warnings

/-- two functions with `main` in their names, and one between them without it -/
def threeBranches : List Function :=
  ["main", "helper", "remain"].map fun name =>
    { name, instructions := [⟨"0", "CMP", "x0, x1", "cmp"⟩, ⟨"4", "B.EQ", "8", "b.eq"⟩] }

/-- the second of two selected functions is scanned first -/
theorem runFinishing_selects_threeBranches :
    [1, 0].Perm (List.range (select (some "main") threeBranches).length)
    ∧ (runFinishing .appleM 4 [1, 0] threeBranches (some "main") false []).fused
      = (run .appleM 1 threeBranches none false []).fused.filter
        (fun m => "main".toList <:+: m.function.toList)
    ∧ (runFinishing .appleM 4 [1, 0] threeBranches (some "main") false []).fused.map (·.function)
      = ["main", "remain"] := by
  have hperm : [1, 0].Perm (List.range (select (some "main") threeBranches).length) := by
    decide +kernel
  refine ⟨hperm, ?_, by decide +kernel⟩
  rw [runFinishing_selects .appleM 4 [1, 0] threeBranches "main" false [] hperm]

end MacroFusion.Analysis
