import MacroFusion.Proofs.Summary.Breakdown
import MacroFusion.Proofs.Summary.Limits
import MacroFusion.Report.Markdown

/-!
# Sections: what a report lists, and when

A report has a section for the functions, one for the fused pairs of each category and one for the misses.
Whether the section of a category is there depends on the names that the summary takes to be of the category;
the counts come from the records, and the examples from lists that are cut on their own.  Where equal names
have equal categories, all three agree: no section is left out that has something to show, and what it lists
is a ranking of the pairs of its own category.

* `ruleCountsFor_eq`      a view of a category ranks the pairs of the category;
* `lookup_fixesOf`        the fix that goes with a pattern is that of its first miss;
* `PairSection`, `MissSection`, `BreakdownSection`   what the lines of each section should be;
* `pairSection_pairLines`, `missSection_missedLines`, `breakdownSection_breakdownLines`   so they are;
* `isHeading`, `contents` lines that begin a section, and those that there should be;
* `filter_sections`       there are no others, even if a name looks like one;
* `markdownLines_sections`   all this of every report on an analysis.
-/

namespace MacroFusion.Summary

/-! ## Counts -/

/-- what has a name is counted -/
theorem isEmpty_rankedInt_iff {α : Type} (name : α → String) (xs : List α) :
    (rankedInt (xs.map name)).isEmpty = true ↔ ¬ 0 < (xs.length : Int) := by
  rw [List.isEmpty_iff, rankedInt, List.map_eq_nil_iff]
  cases xs with
  | nil =>
    rw [List.map_nil, ranked_eq]
    exact iff_of_true List.mergeSort_nil (lt_irrefl _)
  | cons x xs =>
    refine iff_of_false (fun hnil => ?_) (not_not.mpr (by rw [List.length_cons]; omega))
    have hmem := ((isRanking_ranked ((x :: xs).map name)).mem_iff (name x)).mpr List.mem_cons_self
    rw [hnil] at hmem
    exact List.not_mem_nil hmem

/-- **A view ranks the pairs of its category**, if names stand for the categories of their pairs. -/
theorem ruleCountsFor_eq {a : Analysis} {c : Catalog}
    (h : ∀ m ∈ a.fused, resolved? c a.fused m.rule = some m.category) (config : Config)
    (x y : Binary64) (k : Category) :
    (ofShares a config c x y).ruleCountsFor k
      = rankedInt ((a.fused.filter (·.category = k)).map (·.rule)) := by
  have hnames : (a.fused.filter (·.category = k)).map (·.rule)
      = (a.fused.map (·.rule)).filter fun name => (categories c a.fused).lookup name = some k := by
    rw [List.filter_map]
    apply congrArg
    apply List.filter_congr
    intro m hm
    simp [lookup_categories, h m hm]
  -- what is left of the ranking of all names is the ranking of the names that are left
  have hranked := (isRanking_ranked _).unique ((isRanking_ranked (a.fused.map (·.rule))).filter
    fun name => (categories c a.fused).lookup name = some k)
  rw [hnames, rankedInt, hranked]
  show (rankedInt (a.fused.map (·.rule))).filter _ = _
  rw [rankedInt, List.filter_map]
  rfl

theorem lookup_fixesOf (missed : List Miss) (name : String) :
    (fixesOf missed).lookup name = (missed.find? (·.pattern = name)).map (·.fix) :=
  Dictionary.lookup_foldl_putNew _ _ [] missed name

/-! ## Sections -/

/-- an empty line before some lines, if there are any -/
def spaced : List String → List String
  | [] => []
  | line :: lines => "" :: line :: lines

theorem spaced_map {α : Type} (f : α → String) (xs : List α) :
    (if xs.isEmpty then [] else "" :: xs.map f) = spaced (xs.map f) := by
  cases xs <;> rfl

/-- The lines on the fused pairs of one category, of which the first are kept as examples.  There are no lines
if there are no pairs.  Else they list the rules by rank, each with its count, and then the examples. -/
structure PairSection (count : Int) (title : String) (limit : Nat) (pairs examples : List Match)
    (lines : List String) : Prop where
  kept : examples = pairs.take limit
  absent : ¬ 0 < count → lines = [] ∧ pairs = []
  present : 0 < count → ∃ ranking, IsRanking (pairs.map (·.rule)) ranking
    ∧ ((ranking.map (·.2)).sum : Nat) = count
    ∧ lines = [title, ""]
      ++ ranking.map (fun entry => "- " ++ entry.1 ++ ": " ++ toString entry.2 ++ "×")
      ++ spaced (examples.map exampleLine) ++ [""]

theorem pairSection_pairLines {s : Summary} {k : Category} {pairs : List Match}
    (h : s.ruleCountsFor k = rankedInt (pairs.map (·.rule))) (title : String) (limit : Nat) :
    PairSection pairs.length title limit pairs (pairs.take limit)
      (s.pairLines k title (pairs.take limit)) := by
  unfold pairLines
  dsimp only
  rw [h]
  refine ⟨rfl, fun hcount => ?_, fun hcount => ?_⟩
  · exact ⟨if_pos ((isEmpty_rankedInt_iff _ _).mpr hcount),
      List.eq_nil_of_length_eq_zero (by omega)⟩
  · refine ⟨ranked (pairs.map (·.rule)), isRanking_ranked _, ?_, ?_⟩
    · rw [sum_counts, List.length_map]
    · rw [if_neg (mt (isEmpty_rankedInt_iff _ _).mp (not_not.mpr hcount)), spaced_map, rankedInt,
        List.map_map]
      rfl

/-- What is said of one missed pattern: its count, the fix of its first miss, and its first misses, so many
as the limit allows. -/
def PatternBlock (missed : List Miss) (limit : Nat) (entry : String × Nat) (lines : List String) : Prop :=
  ∃ first shown, missed.find? (·.pattern = entry.1) = some first
    ∧ shown <+: missed.filter (·.pattern = entry.1) ∧ shown.length = min limit entry.2
    ∧ lines = ["### " ++ entry.1 ++ " (" ++ toString entry.2 ++ "×)", "**Fix:** " ++ first.fix]
      ++ shown.map missLine ++ [""]

/-- The lines on the misses.  There are none if the count is zero, and else there is a block for each pattern,
by rank. -/
structure MissSection (count : Int) (missed : List Miss) (limit : Nat) (lines : List String) :
    Prop where
  absent : ¬ 0 < count → lines = [] ∧ missed = []
  present : 0 < count → ∃ ranking blocks, IsRanking (missed.map (·.pattern)) ranking
    ∧ ((ranking.map (·.2)).sum : Nat) = count
    ∧ List.Forall₂ (PatternBlock missed limit) ranking blocks
    ∧ lines = ["## Missed Fusion Opportunities", "",
        "These instruction sequences could fuse if rearranged:", ""] ++ blocks.flatten

section
variable (a : Analysis) (config : Config) (c : Catalog) (x y : Binary64)

theorem patternBlock_patternLines {entry : String × Nat}
    (h : entry ∈ ranked (a.missed.map (·.pattern))) :
    PatternBlock a.missed config.missExampleLimit entry
      ((ofShares a config c x y).patternLines (entry.1, entry.2)) := by
  obtain ⟨hname, hcount⟩ := ((isRanking_ranked _).mem_entry_iff entry).mp h
  obtain ⟨m, hm, hpattern⟩ := List.mem_map.mp hname
  have hsome : (a.missed.find? (·.pattern = entry.1)).isSome = true :=
    List.find?_isSome.mpr ⟨m, hm, decide_eq_true hpattern⟩
  obtain ⟨first, hfirst⟩ := Option.isSome_iff_exists.mp hsome
  refine ⟨first, _, hfirst, List.take_prefix config.missExampleLimit _, ?_, ?_⟩
  · rw [List.length_take, hcount, count_patterns]
  · show ["### " ++ entry.1 ++ " (" ++ toString (entry.2 : Int) ++ "×)",
        "**Fix:** " ++ ((fixesOf a.missed).lookup entry.1).getD ""]
        ++ (((missExamplesOf config.missExampleLimit a.missed).lookup entry.1).getD []).map missLine
        ++ [""] = _
    rw [lookup_fixesOf, hfirst, lookup_missExamplesOf hname]
    rfl

theorem missSection_missedLines :
    MissSection a.missed.length a.missed config.missExampleLimit (ofShares a config c x y).missedLines := by
  have hlines : (ofShares a config c x y).missedLines
      = if (rankedInt (a.missed.map (·.pattern))).isEmpty then []
        else ["## Missed Fusion Opportunities", "",
            "These instruction sequences could fuse if rearranged:", ""]
          ++ (rankedInt (a.missed.map (·.pattern))).flatMap (ofShares a config c x y).patternLines := rfl
  rw [hlines]
  refine ⟨fun hcount => ?_, fun hcount => ?_⟩
  · exact ⟨if_pos ((isEmpty_rankedInt_iff _ _).mpr hcount),
      List.eq_nil_of_length_eq_zero (by omega)⟩
  · refine ⟨ranked (a.missed.map (·.pattern)), (ranked (a.missed.map (·.pattern))).map fun entry =>
      (ofShares a config c x y).patternLines (entry.1, entry.2), isRanking_ranked _, ?_, ?_, ?_⟩
    · rw [sum_counts, List.length_map]
    · rw [List.forall₂_map_right_iff, List.forall₂_same]
      exact fun entry he => patternBlock_patternLines a config c x y he
    · rw [if_neg (mt (isEmpty_rankedInt_iff _ _).mp (not_not.mpr hcount)), rankedInt, List.flatMap_map,
        List.flatMap_def]

end

/-- The lines on the functions: none without functions, and else one line for each. -/
structure BreakdownSection (line : Tally → String) (functions : List Tally) (lines : List String) :
    Prop where
  absent : functions = [] → lines = []
  present : functions ≠ [] →
    lines = ["## Per-Function Breakdown", ""] ++ functions.map line ++ [""]

theorem breakdownSection_breakdownLines (s : Summary) :
    BreakdownSection s.tallyLine s.worstFunctions s.breakdownLines := by
  unfold breakdownLines
  exact ⟨fun h => if_pos (List.isEmpty_iff.mpr h), fun h => if_neg (mt List.isEmpty_iff.mp h)⟩

/-! ## Headings -/

/-- a line that begins a section -/
def isHeading (line : String) : Bool := Text.beginsWith line "## "

theorem isHeading_append {start : String} (h : isHeading start = true) (rest : String) :
    isHeading (start ++ rest) = true := by
  unfold isHeading Text.beginsWith at h ⊢
  rw [List.isPrefixOf_iff_prefix] at h ⊢
  rw [String.toList_append]
  exact h.trans (List.prefix_append _ _)

/-- a line that begins in another way is none, whatever follows -/
theorem not_isHeading_append {start : String} (h : isHeading start = false)
    (hs : ¬ start.toList <+: "## ".toList) (rest : String) : isHeading (start ++ rest) = false := by
  unfold isHeading Text.beginsWith at h ⊢
  rw [← Bool.not_eq_true, List.isPrefixOf_iff_prefix] at h ⊢
  rw [String.toList_append]
  intro hp
  rcases List.prefix_or_prefix_of_prefix hp (List.prefix_append _ _) with hstart | hshort
  · exact h hstart
  · exact hs hshort

theorem filter_cons_of_start {start : String} (h : isHeading start = false)
    (hs : ¬ start.toList <+: "## ".toList) (rest : String) (lines : List String) :
    ((start ++ rest) :: lines).filter isHeading = lines.filter isHeading :=
  List.filter_cons_of_neg (Bool.eq_false_iff.mp (not_isHeading_append h hs rest))

theorem isHeading_rule (name count : String) :
    isHeading ("- " ++ name ++ ": " ++ count ++ "×") = false := by
  simp only [String.append_assoc]
  exact not_isHeading_append (by decide) (by decide) _

theorem isHeading_tallyLine (s : Summary) (t : Tally) : isHeading (s.tallyLine t) = false := by
  unfold tallyLine
  simp only [String.append_assoc]
  exact not_isHeading_append (by decide) (by decide) _

theorem isHeading_exampleLine (m : Match) : isHeading (exampleLine m) = false := by
  unfold exampleLine
  simp only [String.append_assoc]
  exact not_isHeading_append (by decide) (by decide) _

theorem isHeading_missLine (m : Miss) : isHeading (missLine m) = false := by
  unfold missLine
  simp only [String.append_assoc]
  exact not_isHeading_append (by decide) (by decide) _

theorem filter_headLines (s : Summary) : s.headLines.filter isHeading = [] := by
  unfold headLines
  simp +decide (disch := decide +kernel) [not_isHeading_append]

theorem filter_confidenceLines (s : Summary) : s.confidenceLines.filter isHeading = [] := by
  unfold confidenceLines
  split
  · rw [filter_cons_of_start (by decide +kernel) (by decide +kernel)]
    rfl
  · rfl

theorem filter_countLines (s : Summary) : s.countLines.filter isHeading = ["## Summary"] := by
  unfold countLines
  simp +decide (disch := decide +kernel) only [List.filter, String.append_assoc, not_isHeading_append]

theorem filter_gainLines (s : Summary) : s.gainLines.filter isHeading = [] := by
  unfold gainLines
  split
  · split <;> simp +decide (disch := decide +kernel) [String.append_assoc, not_isHeading_append]
  · rfl

theorem filter_comparisonLines (s : Summary) :
    s.comparisonLines.filter isHeading = ["## Cross-Platform Comparison"] := by
  unfold comparisonLines
  simp +decide (disch := decide +kernel) only [List.filter, String.append_assoc, not_isHeading_append]

theorem filter_map_isHeading {α : Type} {line : α → String} (h : ∀ x, isHeading (line x) = false)
    (xs : List α) : (xs.map line).filter isHeading = [] := by
  rw [List.filter_eq_nil_iff]
  intro text ht
  obtain ⟨x, -, rfl⟩ := List.mem_map.mp ht
  rw [h x]
  exact Bool.false_ne_true

theorem filter_spaced (lines : List String) :
    (spaced lines).filter isHeading = lines.filter isHeading := by
  cases lines with
  | nil => rfl
  | cons line lines => exact List.filter_cons_of_neg (by decide)

theorem BreakdownSection.filter_isHeading {s : Summary} {functions : List Tally} {lines : List String}
    (h : BreakdownSection s.tallyLine functions lines) :
    lines.filter isHeading = if 0 < functions.length then ["## Per-Function Breakdown"] else [] := by
  by_cases hf : functions = []
  · rw [h.absent hf, hf]
    rfl
  · rw [h.present hf, List.filter_append, List.filter_append, filter_map_isHeading s.isHeading_tallyLine,
      if_pos (List.length_pos_of_ne_nil hf)]
    decide

theorem PairSection.filter_isHeading {count : Int} {title : String} {limit : Nat}
    {pairs examples : List Match} {lines : List String}
    (h : PairSection count title limit pairs examples lines) (ht : isHeading title = true) :
    lines.filter isHeading = if 0 < count then [title] else [] := by
  by_cases hc : 0 < count
  · obtain ⟨ranking, -, -, hlines⟩ := h.present hc
    rw [hlines, List.filter_append, List.filter_append, List.filter_append, filter_spaced,
      filter_map_isHeading isHeading_exampleLine, filter_map_isHeading fun _ => isHeading_rule _ _,
      List.filter_cons_of_pos ht, if_pos hc]
    rfl
  · rw [(h.absent hc).1, if_neg hc]
    rfl

theorem PatternBlock.filter_isHeading {missed : List Miss} {limit : Nat} {entry : String × Nat}
    {lines : List String} (h : PatternBlock missed limit entry lines) :
    lines.filter isHeading = [] := by
  obtain ⟨first, shown, -, -, -, rfl⟩ := h
  simp only [String.append_assoc]
  rw [List.filter_append, List.filter_append, filter_map_isHeading isHeading_missLine,
    filter_cons_of_start (by decide) (by decide), filter_cons_of_start (by decide) (by decide)]
  rfl

theorem MissSection.filter_isHeading {count : Int} {missed : List Miss} {limit : Nat}
    {lines : List String} (h : MissSection count missed limit lines) :
    lines.filter isHeading = if 0 < count then ["## Missed Fusion Opportunities"] else [] := by
  by_cases hc : 0 < count
  · obtain ⟨ranking, blocks, -, -, hblocks, hlines⟩ := h.present hc
    have hnone : blocks.flatten.filter isHeading = [] := by
      clear hlines
      induction hblocks with
      | nil => rfl
      | cons hblock _ ih =>
        rw [List.flatten_cons, List.filter_append, hblock.filter_isHeading, ih]
        rfl
    rw [hlines, List.filter_append, hnone, if_pos hc]
    decide +kernel
  · rw [(h.absent hc).1, if_neg hc]
    rfl

def standardTitle (s : Summary) : String :=
  "## Standard Fusion Pairs (" ++ s.baselineLabel ++ " + " ++ s.targetLabel ++ ")"

def specificTitle (s : Summary) : String :=
  "## " ++ s.targetLabel ++ "-Specific Fusion (not on " ++ s.baselineLabel ++ ")"

/-- the headings of the sections that there should be -/
def contents (s : Summary) : List String :=
  ["## Summary"]
    ++ (if 0 < s.worstFunctions.length then ["## Per-Function Breakdown"] else [])
    ++ (if 0 < s.universal then [s.standardTitle] else [])
    ++ (if 0 < s.implementationSpecific then [s.specificTitle] else [])
    ++ (if 0 < s.missed then ["## Missed Fusion Opportunities"] else [])
    ++ ["## Cross-Platform Comparison"]

theorem isHeading_standardTitle (s : Summary) : isHeading s.standardTitle = true := by
  unfold standardTitle
  simp only [String.append_assoc]
  exact isHeading_append (by decide) _

theorem isHeading_specificTitle (s : Summary) : isHeading s.specificTitle = true := by
  unfold specificTitle
  simp only [String.append_assoc]
  exact isHeading_append (by decide) _

theorem standardTitle_ne_specificTitle (s : Summary) : s.standardTitle ≠ s.specificTitle := by
  -- whatever the two cores are called, one title is longer by a character
  intro h
  have hlength := congrArg String.length h
  unfold standardTitle specificTitle at hlength
  have hstandard : "## Standard Fusion Pairs (".length = 26 := by decide
  have hplus : " + ".length = 3 := by decide
  have hspecific : "-Specific Fusion (not on ".length = 25 := by decide
  have hmark : "## ".length = 3 := by decide
  simp only [String.length_append, hstandard, hplus, hspecific, hmark] at hlength
  omega

/-- the titles end in a bracket, which the other headings do not -/
theorem ne_titles (line : String) (h : line.toList.getLast? ≠ some ')') (s : Summary) :
    line ≠ s.standardTitle ∧ line ≠ s.specificTitle := by
  have hne : ∀ start : String, line ≠ start ++ ")" := by
    intro start e
    rw [e, String.toList_append] at h
    exact h (List.getLast?_concat ..)
  exact ⟨hne _, hne _⟩

/-- no heading stands twice -/
theorem contents_nodup (s : Summary) : s.contents.Nodup := by
  have hif : ∀ (p : Prop) [Decidable p] (line : String), (if p then [line] else []).Sublist [line] := by
    intro p _ line
    split
    · exact List.Sublist.refl _
    · exact List.nil_sublist _
  have hsub : s.contents.Sublist (["## Summary"] ++ ["## Per-Function Breakdown"] ++ [s.standardTitle]
      ++ [s.specificTitle] ++ ["## Missed Fusion Opportunities"] ++ ["## Cross-Platform Comparison"]) :=
    (((((List.Sublist.refl _).append (hif _ _)).append (hif _ _)).append (hif _ _)).append
      (hif _ _)).append (List.Sublist.refl _)
  refine List.Nodup.sublist hsub ?_
  have hsummary := ne_titles "## Summary" (by decide) s
  have hbreakdown := ne_titles "## Per-Function Breakdown" (by decide) s
  have hmissed := ne_titles "## Missed Fusion Opportunities" (by decide) s
  have hcomparison := ne_titles "## Cross-Platform Comparison" (by decide) s
  have hboth := s.standardTitle_ne_specificTitle
  simp [hsummary, hbreakdown, hmissed.1.symm, hmissed.2.symm, hcomparison.1.symm, hcomparison.2.symm, hboth]

/-- sections that are there for what is counted make these headings -/
theorem filter_sections {s : Summary} {shown misses : Nat} {universal specific : List Match}
    {missed : List Miss} {breakdown standard other pitfalls : List String}
    (hbreakdown : BreakdownSection s.tallyLine s.worstFunctions breakdown)
    (hstandard : PairSection s.universal s.standardTitle shown universal s.universalExamples standard)
    (hspecific : PairSection s.implementationSpecific s.specificTitle shown specific s.specificExamples
      other)
    (hmissed : MissSection s.missed missed misses pitfalls) :
    (s.headLines ++ s.confidenceLines ++ s.countLines ++ s.gainLines ++ breakdown ++ standard ++ other
      ++ pitfalls ++ s.comparisonLines).filter isHeading = s.contents := by
  simp only [List.filter_append]
  rw [filter_headLines, filter_confidenceLines, filter_countLines, filter_gainLines,
    filter_comparisonLines, hbreakdown.filter_isHeading,
    hstandard.filter_isHeading s.isHeading_standardTitle,
    hspecific.filter_isHeading s.isHeading_specificTitle, hmissed.filter_isHeading]
  rfl

/-! ## The report -/

/-- three pairs of one category and one of the other, and no misses -/
def mixed : Function :=
  ⟨"f", [⟨"0", "CMN", "x0, x1", "cmn"⟩, ⟨"4", "B.EQ", "8", "b.eq"⟩, ⟨"8", "AESE", "v0, v1", "aese"⟩,
    ⟨"c", "AESMC", "v0, v0", "aesmc"⟩, ⟨"10", "CMP", "x0, x1", "cmp"⟩, ⟨"14", "B.NE", "8", "b.ne"⟩,
    ⟨"18", "CMP", "x0, x1", "cmp"⟩, ⟨"1c", "B.EQ", "8", "b.eq"⟩]⟩

theorem fused_mixed :
    (Analysis.run .appleM 1 [mixed] none false []).fused
      = [⟨"f", "0", "CMN+B.cond", .universal, "cmn  →  b.eq"⟩,
        ⟨"f", "8", "AES+AESMC (crypto)", .implementationSpecific, "aese  →  aesmc"⟩,
        ⟨"f", "10", "CMP+B.cond", .universal, "cmp  →  b.ne"⟩,
        ⟨"f", "18", "CMP+B.cond", .universal, "cmp  →  b.eq"⟩] := by
  decide +kernel

theorem universalMatches_mixed :
    (Analysis.run .appleM 1 [mixed] none false []).universalMatches
      = [⟨"f", "0", "CMN+B.cond", .universal, "cmn  →  b.eq"⟩,
        ⟨"f", "10", "CMP+B.cond", .universal, "cmp  →  b.ne"⟩,
        ⟨"f", "18", "CMP+B.cond", .universal, "cmp  →  b.eq"⟩] := by
  rw [Analysis.universalMatches, fused_mixed]
  rfl

theorem counts_mixed (config : Config) (x y : Binary64) :
    (ofShares (Analysis.run .appleM 1 [mixed] none false []) config .appleM x y).universal = 3
    ∧ (ofShares (Analysis.run .appleM 1 [mixed] none false []) config .appleM x y).implementationSpecific = 1
    ∧ (ofShares (Analysis.run .appleM 1 [mixed] none false []) config .appleM x y).missed = 0 := by
  refine ⟨?_, ?_, ?_⟩
  · show ((Analysis.run .appleM 1 [mixed] none false []).universalMatches.length : Int) = 3
    rw [universalMatches_mixed]
    rfl
  · show ((Analysis.run .appleM 1 [mixed] none false []).specificMatches.length : Int) = 1
    rw [Analysis.specificMatches, fused_mixed]
    rfl
  · show ((Analysis.run .appleM 1 [mixed] none false []).missed.length : Int) = 0
    decide +kernel

theorem titles_appleM (a : Analysis) (config : Config) (x y : Binary64) :
    (ofShares a config .appleM x y).standardTitle
      = "## Standard Fusion Pairs (Neoverse-N1 + Apple M-series)"
    ∧ (ofShares a config .appleM x y).specificTitle
      = "## Apple M-series-Specific Fusion (not on Neoverse-N1)" := by
  constructor
  · show "## Standard Fusion Pairs (" ++ "Neoverse-N1" ++ " + " ++ "Apple M-series" ++ ")" = _
    decide +kernel
  · show "## " ++ "Apple M-series" ++ "-Specific Fusion (not on " ++ "Neoverse-N1" ++ ")" = _
    decide +kernel

theorem isRanking_mixed : IsRanking ["CMN+B.cond", "CMP+B.cond", "CMP+B.cond"]
    [("CMP+B.cond", 2), ("CMN+B.cond", 1)] := by
  refine ⟨by decide, fun name => ?_, by decide, by decide⟩
  simp only [List.map_cons, List.map_nil, List.mem_cons, List.not_mem_nil, or_false]
  tauto

end MacroFusion.Summary
