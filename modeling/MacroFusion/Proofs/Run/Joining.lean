import MacroFusion.Proofs.Run.Outcome
import MacroFusion.Proofs.Text.Lines

/-!
# Joining: one listing printed after another

Two texts are put one after the other, where the first ends with a line feed and the second opens a
function before its first instruction.  Nothing crosses the seam: the last line of the first text is
closed, its last function is complete, and no pair and no window has instructions of both.  So the run of
both together is the two runs, one after the other.

* `Listing.classified_append`   the lines of both;
* `Listing.Opens`               lines that open a function before their first instruction;
* `Listing.group_append`        such lines leave the functions before them alone;
* `Listing.ofLines_append`      the listing of both;
* `Analysis.ofFunctions_append` the analysis of both;
* `run_append`                  the run of both, unless its counts are out of range.
-/

namespace MacroFusion

/-! ## Listings -/

namespace Listing

theorem classified_append {a : String} (h : a.toList.getLast? = some '\n') (b : String) :
    classified (a ++ b) = classified a ++ classified b := by
  unfold classified
  rw [String.toList_append, Text.lines_append h, List.map_append]

/-- a listing with another printed after it, which has no orphans -/
def followedBy (l m : Listing) : Listing :=
  { l with
    functions := l.functions ++ m.functions
    linesRead := l.linesRead + m.linesRead
    skippedLines := l.skippedLines + m.skippedLines }

/-- the first line that is a header or an instruction is a header -/
def Opens (ls : List Line) : Prop := ∃ name, ls.find? (fun l => !l.isNoise) = some (.header name)

theorem Opens.group_nil {ls : List Line} (h : Opens ls) : (group ls).1 = [] := by
  obtain ⟨name, h⟩ := h
  induction ls with
  | nil => rfl
  | cons l ls ih =>
    cases l with
    | header name => rfl
    | instruction i => cases h
    | noise => exact ih h

/-- lines without orphans leave the functions before them alone -/
theorem group_append {ls : List Line} (h : (group ls).1 = []) (ks : List Line) :
    group (ks ++ ls) = ((group ks).1, (group ks).2 ++ (group ls).2) := by
  induction ks with
  | nil =>
    show group ls = ([], [] ++ (group ls).2)
    rw [← h, List.nil_append]
  | cons k ks ih =>
    cases k with
    | header name =>
      show group (.header name :: (ks ++ ls)) = _
      rw [group_header, group_header, ih]
      rfl
    | instruction i =>
      show group (.instruction i :: (ks ++ ls)) = _
      rw [group_instruction, group_instruction, ih]
    | noise => exact ih

theorem exists_instruction_of_orphans {ls : List Line} (h : (group ls).1 ≠ []) :
    ∃ l ∈ ls, l.isInstruction = true := by
  have hne : (instructionsIn ls).length ≠ 0 := by
    rw [← instructions_group, List.length_append]
    have := List.length_pos_iff.mpr h
    omega
  rw [length_instructionsIn] at hne
  exact List.countP_pos_iff.mp (Nat.pos_of_ne_zero hne)

theorem findIdx_isInstruction_append {ks : List Line} (h : ∃ k ∈ ks, k.isInstruction = true)
    (ls : List Line) : (ks ++ ls).findIdx (·.isInstruction) = ks.findIdx (·.isInstruction) := by
  rw [List.findIdx_append, if_pos (List.findIdx_lt_length_of_exists h)]

/-- **The listing of lines with others after them** that open a function of their own. -/
theorem ofLines_append {ls : List Line} (h : (group ls).1 = []) (ks : List Line) :
    ofLines (ks ++ ls) = (ofLines ks).followedBy (ofLines ls) := by
  have hg := group_append h ks
  rw [ofLines_of_group_nil h, followedBy]
  by_cases hk : (group ks).1 = []
  · have hkl : (group (ks ++ ls)).1 = [] := by rw [hg, hk]
    rw [ofLines_of_group_nil hkl, ofLines_of_group_nil hk, hg, List.length_append, List.countP_append]
  · have hkl : (group (ks ++ ls)).1 ≠ [] := by
      rw [hg]
      exact hk
    rw [ofLines_of_group_ne_nil hkl, ofLines_of_group_ne_nil hk, hg, List.length_append,
      List.countP_append, findIdx_isInstruction_append (exists_instruction_of_orphans hk)]
    rfl

end Listing

/-! ## Analyses -/

namespace Analysis

/-- an analysis with that of further functions after it -/
def followedBy (x y : Analysis) : Analysis :=
  { x with
    totalInstructions := x.totalInstructions + y.totalInstructions
    fused := x.fused ++ y.fused
    missed := x.missed ++ y.missed
    perFunction := x.perFunction ++ y.perFunction }

theorem ofFunctions_append (c : Catalog) (fs gs : List Function) (lowConfidence low : Bool)
    (warnings warned : List String) :
    ofFunctions c (fs ++ gs) lowConfidence warnings
      = (ofFunctions c fs lowConfidence warnings).followedBy (ofFunctions c gs low warned) := by
  let both := ofFunctions c (fs ++ gs) lowConfidence warnings
  have htotal : both.totalInstructions = (ofFunctions c fs lowConfidence warnings).totalInstructions
      + (ofFunctions c gs low warned).totalInstructions := by
    show (ofFunctions c (fs ++ gs) lowConfidence warnings).totalInstructions = _
    rw [totalInstructions_ofFunctions, totalInstructions_ofFunctions, totalInstructions_ofFunctions,
      List.map_append, List.sum_append, Int.natCast_add]
  have hfused : both.fused = (ofFunctions c fs lowConfidence warnings).fused
      ++ (ofFunctions c gs low warned).fused := by
    show (ofFunctions c (fs ++ gs) lowConfidence warnings).fused = _
    rw [fused_ofFunctions, fused_ofFunctions, fused_ofFunctions, List.flatMap_append]
  have hmissed : both.missed = (ofFunctions c fs lowConfidence warnings).missed
      ++ (ofFunctions c gs low warned).missed := by
    show (ofFunctions c (fs ++ gs) lowConfidence warnings).missed = _
    rw [missed_ofFunctions, missed_ofFunctions, missed_ofFunctions, List.flatMap_append]
  have hper : both.perFunction = (ofFunctions c fs lowConfidence warnings).perFunction
      ++ (ofFunctions c gs low warned).perFunction := by
    show (ofFunctions c (fs ++ gs) lowConfidence warnings).perFunction = _
    rw [perFunction_ofFunctions, perFunction_ofFunctions, perFunction_ofFunctions, List.map_append]
  rw [followedBy, ← htotal, ← hfused, ← hmissed, ← hper]
  rfl

theorem length_universalMatches_followedBy (x y : Analysis) :
    (x.followedBy y).universalMatches.length
      = x.universalMatches.length + y.universalMatches.length := by
  show ((x.fused ++ y.fused).filter _).length = _
  rw [List.filter_append, List.length_append]
  rfl

theorem length_specificMatches_followedBy (x y : Analysis) :
    (x.followedBy y).specificMatches.length
      = x.specificMatches.length + y.specificMatches.length := by
  show ((x.fused ++ y.fused).filter _).length = _
  rw [List.filter_append, List.length_append]
  rfl

end Analysis

/-! ## Runs -/

namespace Run

/-- without a filter, or with an empty one -/
def Unfiltered (config : Config) : Prop := config.filter = none ∨ config.filter = some ""

theorem analyze_of_unfiltered {config : Config} (h : Unfiltered config) (l : Listing) (c : Catalog) :
    analyze l config c = Analysis.ofFunctions c l.functions l.lowConfidence l.warnings := by
  have hs : Analysis.select config.filter l.functions = l.functions := by
    rcases h with h | h <;> rw [h] <;> rfl
  unfold analyze
  rw [Analysis.run_eq, hs]

/-- which catalog is used does not depend on the text -/
theorem run_cases (registry : Registry) (config : Config) (catalog : Option Catalog) :
    (∃ c, ∀ text, run registry text config catalog = withCatalog text config c)
    ∨ ∃ f, ∀ text, run registry text config catalog = .error f := by
  cases catalog with
  | some c => exact Or.inl ⟨c, fun text => run_some registry text config c⟩
  | none =>
    cases hg : registry.get config.catalog with
    | ok e =>
      refine Or.inl ⟨e.catalog, fun text => ?_⟩
      rw [run_none, hg]
    | error f =>
      refine Or.inr ⟨f, fun text => ?_⟩
      rw [run_none, hg]

/-- what a run that succeeds is made of -/
theorem of_withCatalog_ok {text : String} {config : Config} {c : Catalog} {r : Run}
    (h : withCatalog text config c = .ok r) :
    ¬ Unlisted text ∧ r.listing = listingOf text
    ∧ r.analysis = analyze (listingOf text) config c
    ∧ 0 < r.analysis.totalInstructions
    ∧ ∃ improvement advantage, r.summary = Summary.ofShares r.analysis config c improvement advantage := by
  have hl : ¬ Unlisted text := by
    intro hl
    rw [withCatalog_of_unlisted hl] at h
    cases h
  rw [withCatalog_of_listed hl] at h
  cases hs : Summary.ofAnalysis (analyze (listingOf text) config c) config c with
  | error f =>
    rw [hs] at h
    cases h
  | ok s =>
    rw [hs] at h
    have hr : (⟨listingOf text, analyze (listingOf text) config c, s⟩ : Run) = r := Except.ok.inj h
    have hn : 0 ≤ (analyze (listingOf text) config c).totalInstructions := by
      rw [totalInstructions_analyze]
      exact Int.natCast_nonneg _
    rw [← hr]
    exact ⟨hl, rfl, rfl, Summary.of_ofAnalysis_ok hn hs⟩

/-- the counts of both runs together are in the range of floating-point numbers -/
def CountableTogether (ra rb : Run) : Prop :=
  (ra.analysis.totalInstructions + rb.analysis.totalInstructions).natAbs < Binary64.overflow
  ∧ ra.analysis.fused.length + rb.analysis.fused.length < Binary64.overflow

/-- **One run after another**: `r` lists what `ra` lists and then what `rb` lists, and adds up their
counts; orphans are those of the first. -/
structure Joins (ra rb r : Run) : Prop where
  listing_eq : r.listing = ra.listing.followedBy rb.listing
  analysis_eq : r.analysis = ra.analysis.followedBy rb.analysis
  totalInstructions_eq :
    r.summary.totalInstructions = ra.summary.totalInstructions + rb.summary.totalInstructions
  universal_eq : r.summary.universal = ra.summary.universal + rb.summary.universal
  specific_eq : r.summary.implementationSpecific
    = ra.summary.implementationSpecific + rb.summary.implementationSpecific
  missed_eq : r.summary.missed = ra.summary.missed + rb.summary.missed
  lowConfidence_eq : r.summary.lowConfidence = ra.summary.lowConfidence
  warnings_eq : r.summary.warnings = ra.summary.warnings

section
variable {config : Config} {c : Catalog} {a b : String}

theorem not_unlisted_append (hend : a.toList.getLast? = some '\n') (h : ¬ Unlisted a) :
    ¬ Unlisted (a ++ b) := by
  intro hab
  apply h
  intro l hl
  apply hab
  rw [Listing.classified_append hend]
  exact List.mem_append_left _ hl

theorem listingOf_append (hend : a.toList.getLast? = some '\n')
    (hopen : Listing.Opens (Listing.classified b)) :
    listingOf (a ++ b) = (listingOf a).followedBy (listingOf b) := by
  unfold listingOf
  rw [Listing.classified_append hend]
  exact Listing.ofLines_append hopen.group_nil _

theorem analyze_append (hu : Unfiltered config) (hend : a.toList.getLast? = some '\n')
    (hopen : Listing.Opens (Listing.classified b)) :
    analyze (listingOf (a ++ b)) config c
      = (analyze (listingOf a) config c).followedBy (analyze (listingOf b) config c) := by
  rw [analyze_of_unfiltered hu, analyze_of_unfiltered hu, analyze_of_unfiltered hu,
    listingOf_append hend hopen]
  exact Analysis.ofFunctions_append c _ _ _ _ _ _

end

/-- what a summary says of an analysis that joins two others -/
theorem joins_ofShares {config : Config} {c : Catalog} {ra rb r : Run}
    {x y xa ya xb yb : Binary64}
    (hlisting : r.listing = ra.listing.followedBy rb.listing)
    (hanalysis : r.analysis = ra.analysis.followedBy rb.analysis)
    (hr : r.summary = Summary.ofShares r.analysis config c x y)
    (ha : ra.summary = Summary.ofShares ra.analysis config c xa ya)
    (hb : rb.summary = Summary.ofShares rb.analysis config c xb yb) : Joins ra rb r := by
  have hmissed : (ra.analysis.missed ++ rb.analysis.missed).length
      = ra.analysis.missed.length + rb.analysis.missed.length := List.length_append
  rw [hanalysis] at hr
  refine ⟨hlisting, hanalysis, ?_, ?_, ?_, ?_, ?_, ?_⟩
  · rw [hr, ha, hb]
    rfl
  · rw [hr, ha, hb]
    show ((ra.analysis.followedBy rb.analysis).universalMatches.length : Int) = _
    rw [Analysis.length_universalMatches_followedBy, Int.natCast_add]
    rfl
  · rw [hr, ha, hb]
    show ((ra.analysis.followedBy rb.analysis).specificMatches.length : Int) = _
    rw [Analysis.length_specificMatches_followedBy, Int.natCast_add]
    rfl
  · rw [hr, ha, hb]
    show ((ra.analysis.missed ++ rb.analysis.missed).length : Int) = _
    rw [hmissed, Int.natCast_add]
    rfl
  · rw [hr, ha]
    rfl
  · rw [hr, ha]
    rfl

/-- **The run of two texts, one after the other.**  Where the first ends with a line feed and the second
opens a function before its first instruction, and both can be run without a filter, the two together give
the one run after the other; only counts that are too large for floating-point numbers can prevent
it. -/
theorem run_append {registry : Registry} {config : Config} {catalog : Option Catalog} {a b : String}
    {ra rb : Run} (hu : Unfiltered config) (hend : a.toList.getLast? = some '\n')
    (hopen : Listing.Opens (Listing.classified b))
    (ha : run registry a config catalog = .ok ra) (hb : run registry b config catalog = .ok rb) :
    (CountableTogether ra rb →
      ∃ r, run registry (a ++ b) config catalog = .ok r ∧ Joins ra rb r)
    ∧ (¬ CountableTogether ra rb →
      run registry (a ++ b) config catalog = .error .countTooLarge) := by
  rcases run_cases registry config catalog with ⟨c, hrun⟩ | ⟨f, hrun⟩
  swap
  · rw [hrun] at ha
    cases ha
  rw [hrun] at ha hb ⊢
  obtain ⟨hla, hlistA, hanA, hposA, xa, ya, hsumA⟩ := of_withCatalog_ok ha
  obtain ⟨_, hlistB, hanB, hposB, xb, yb, hsumB⟩ := of_withCatalog_ok hb
  have hlisting := listingOf_append hend hopen
  have hanalysis := analyze_append (c := c) hu hend hopen
  rw [← hlistA, ← hlistB] at hlisting
  rw [← hanA, ← hanB] at hanalysis
  have hcount : (analyze (listingOf (a ++ b)) config c).Countable ↔ CountableTogether ra rb := by
    rw [hanalysis]
    unfold Analysis.Countable CountableTogether Analysis.followedBy
    rw [List.length_append]
  have hpos : 0 < (analyze (listingOf (a ++ b)) config c).totalInstructions := by
    rw [hanalysis]
    exact Int.add_pos hposA hposB
  rw [withCatalog_of_listed (not_unlisted_append hend hla)]
  constructor
  · intro hc
    obtain ⟨x, y, hok⟩ := Summary.ofAnalysis_of_countable hpos (hcount.mpr hc) config c
    rw [hok]
    exact ⟨_, rfl, joins_ofShares hlisting hanalysis rfl hsumA hsumB⟩
  · intro hc
    rw [Summary.ofAnalysis_of_not_countable hpos (mt hcount.mp hc)]
    rfl

/-- a listing with an orphan, which ends with a comparison -/
def endsComparing : String := "  0:\tnop\n_f:\n  4:\tcmp x0, x1\n"

/-- a listing whose first instruction is a branch -/
def startsBranching : String := "text section\n_g:\n  8:\tb.eq 4\n"

/-- the comparison and the branch would fuse if the one function went on in the other -/
theorem run_append_seam :
    Unfiltered {} ∧ endsComparing.toList.getLast? = some '\n'
    ∧ Listing.Opens (Listing.classified startsBranching)
    ∧ ∃ ra rb r, run .fresh endsComparing {} (some .appleM) = .ok ra
      ∧ run .fresh startsBranching {} (some .appleM) = .ok rb
      ∧ CountableTogether ra rb
      ∧ run .fresh (endsComparing ++ startsBranching) {} (some .appleM) = .ok r
      ∧ Joins ra rb r := by
  have hu : Unfiltered {} := Or.inl rfl
  have hend : endsComparing.toList.getLast? = some '\n' := by decide +kernel
  have hopen : Listing.Opens (Listing.classified startsBranching) := ⟨"_g", by decide +kernel⟩
  have hok : ∀ text, (run .fresh text {} (some .appleM)).isOk = true →
      ∃ r, run .fresh text {} (some .appleM) = .ok r := by
    intro text h
    cases hr : run .fresh text {} (some .appleM) with
    | ok r => exact ⟨r, rfl⟩
    | error f =>
      rw [hr] at h
      cases h
  obtain ⟨ra, ha⟩ := hok endsComparing (by decide +kernel)
  obtain ⟨rb, hb⟩ := hok startsBranching (by decide +kernel)
  have hanA := (of_withCatalog_ok (run_some _ _ _ _ ▸ ha)).2.2.1
  have hanB := (of_withCatalog_ok (run_some _ _ _ _ ▸ hb)).2.2.1
  have hcount : CountableTogether ra rb := by
    unfold CountableTogether
    rw [hanA, hanB]
    decide +kernel
  obtain ⟨r, hr, hjoins⟩ := (run_append hu hend hopen ha hb).1 hcount
  exact ⟨hu, hend, hopen, ra, rb, r, ha, hb, hcount, hr, hjoins⟩

end Run

end MacroFusion
