import Mathlib.Data.Nat.Cast.Order.Ring
import MacroFusion.Proofs.Summary.Rankings

/-!
# Limits: what they cut and what they leave alone

A configuration limits how many examples and functions a summary shows.  Two summaries of one analysis
under different limits have the same numbers, and the lists of one are heads of those of the other.  The
misses of all patterns come in one list, and each pattern has its own examples out of it.

* `Cuts`             shorter lists, and all else the same;
* `cuts_ofShares`    lower limits make such a summary;
* `ShowsFirst`       of every pattern that is counted, the first misses up to the limit;
* `showsFirst_ofShares`   so it is in each summary;
* `ofAnalysis_limits`     both, for every analysis of instructions.
-/

namespace MacroFusion.Summary

/-- `s` is `t` with some of its lists cut shorter: the functions, the examples of both categories, and the
examples of each missed pattern -/
structure Cuts (s t : Summary) : Prop where
  rest : s = { t with
    worstFunctions := s.worstFunctions
    universalExamples := s.universalExamples
    specificExamples := s.specificExamples
    missExamples := s.missExamples }
  functions : s.worstFunctions <+: t.worstFunctions
  universal : s.universalExamples <+: t.universalExamples
  specific : s.specificExamples <+: t.specificExamples
  patterns : s.missExamples.keys = t.missExamples.keys
  misses : ∀ name shown, s.missExamples.lookup name = some shown →
    ∃ more, t.missExamples.lookup name = some more ∧ shown <+: more

/-- the examples are there for the patterns that are counted and for no others; of each they are its first
misses, all of them or as many as the limit allows -/
structure ShowsFirst (limit : Nat) (missed : List Miss) (s : Summary) : Prop where
  patterns : s.missExamples.keys.Perm (s.countsByPattern.map (·.1))
  nodup : s.missExamples.keys.Nodup
  shown : ∀ name count, (name, count) ∈ s.countsByPattern →
    ∃ shown, s.missExamples.lookup name = some shown
      ∧ shown <+: missed.filter (·.pattern = name) ∧ (shown.length : Int) = min (limit : Int) count

/-! ## Examples of misses -/

theorem keys_missExamplesOf (limit : Nat) (missed : List Miss) :
    (missExamplesOf limit missed).keys = distinct (missed.map (·.pattern)) := by
  rw [missExamplesOf_eq, Dictionary.keys_table]

theorem lookup_missExamplesOf {missed : List Miss} {name : String}
    (h : name ∈ missed.map (·.pattern)) (limit : Nat) :
    (missExamplesOf limit missed).lookup name
      = some ((missed.filter (·.pattern = name)).take limit) := by
  rw [missExamplesOf_eq, Dictionary.lookup_table_of_mem (mem_distinct.mpr h)]

/-- a lower limit keeps the head of what a higher one keeps -/
theorem lookup_missExamplesOf_isPrefix {missed : List Miss} {less more : Nat} (h : less ≤ more)
    {name : String} {shown : List Miss}
    (hs : (missExamplesOf less missed).lookup name = some shown) :
    ∃ all, (missExamplesOf more missed).lookup name = some all ∧ shown <+: all := by
  have hname : name ∈ missed.map (·.pattern) := by
    have hkey : name ∈ (missExamplesOf less missed).keys := Dictionary.mem_keys_iff.mpr (by rw [hs]; rfl)
    rwa [keys_missExamplesOf, mem_distinct] at hkey
  rw [lookup_missExamplesOf hname] at hs
  refine ⟨_, lookup_missExamplesOf hname more, ?_⟩
  rw [← Option.some.inj hs]
  exact List.take_prefix_take_left h

/-! ## Counts of misses -/

theorem map_fst_rankedInt_perm (names : List String) :
    ((rankedInt names).map (·.1)).Perm (distinct names) := by
  have hmap : (rankedInt names).map (·.1) = (ranked names).map (·.1) := by
    rw [rankedInt, List.map_map]
    rfl
  have hranking := isRanking_ranked names
  rw [hmap, List.perm_ext_iff_of_nodup hranking.nodup (nodup_distinct names)]
  intro name
  rw [hranking.mem_iff, mem_distinct]

theorem of_mem_rankedInt {names : List String} {name : String} {count : Int}
    (h : (name, count) ∈ rankedInt names) : name ∈ names ∧ count = names.count name := by
  obtain ⟨entry, he, heq⟩ := List.mem_map.mp h
  obtain ⟨rfl, rfl⟩ := Prod.mk.inj heq
  obtain ⟨hn, hc⟩ := ((isRanking_ranked names).mem_entry_iff entry).mp he
  exact ⟨hn, by rw [hc]⟩

theorem count_patterns (missed : List Miss) (name : String) :
    (missed.map (·.pattern)).count name = (missed.filter (·.pattern = name)).length := by
  rw [List.count_eq_length_filter, List.filter_map, List.length_map]
  rfl

/-! ## Summaries under different limits -/

section
variable (a : Analysis) (c : Catalog) (x y : Binary64)

theorem showsFirst_ofShares (config : Config) :
    ShowsFirst config.missExampleLimit a.missed (ofShares a config c x y) where
  patterns := by
    show (missExamplesOf config.missExampleLimit a.missed).keys.Perm
      ((rankedInt (a.missed.map (·.pattern))).map (·.1))
    rw [keys_missExamplesOf]
    exact (map_fst_rankedInt_perm _).symm
  nodup := by
    show (missExamplesOf config.missExampleLimit a.missed).keys.Nodup
    rw [keys_missExamplesOf]
    exact nodup_distinct _
  shown := by
    intro name count h
    obtain ⟨hn, rfl⟩ := of_mem_rankedInt h
    refine ⟨_, lookup_missExamplesOf hn _, List.take_prefix _ _, ?_⟩
    rw [List.length_take, count_patterns, Nat.cast_min]

theorem cuts_ofShares {narrow wide : Config} (hexamples : narrow.exampleLimit ≤ wide.exampleLimit)
    (hmisses : narrow.missExampleLimit ≤ wide.missExampleLimit)
    (htop : narrow.topFunctions ≤ wide.topFunctions) :
    Cuts (ofShares a narrow c x y) (ofShares a wide c x y) where
  rest := rfl
  functions := List.take_prefix_take_left htop
  universal := List.take_prefix_take_left hexamples
  specific := List.take_prefix_take_left hexamples
  patterns := by
    show (missExamplesOf _ a.missed).keys = (missExamplesOf _ a.missed).keys
    rw [keys_missExamplesOf, keys_missExamplesOf]
  misses := fun _ _ hs => lookup_missExamplesOf_isPrefix hmisses hs

end

/-- **Limits only cut.**  Of two summaries of one analysis, the one with lower limits has the same numbers
and everything else alike, except that it lists the head of the functions and of the examples.  Both have
examples for just the patterns that they count, in the same order, and those of a pattern are its first
misses, as many as the limit allows; a limit of none leaves the pattern there without examples.  Nor has
a limit any part in whether there is a summary. -/
theorem ofAnalysis_limits (a : Analysis) (c : Catalog) (narrow wide : Config)
    (hpos : 0 < a.totalInstructions) (hexamples : narrow.exampleLimit ≤ wide.exampleLimit)
    (hmisses : narrow.missExampleLimit ≤ wide.missExampleLimit)
    (htop : narrow.topFunctions ≤ wide.topFunctions) :
    (a.Countable → ∃ s t, ofAnalysis a narrow c = .ok s ∧ ofAnalysis a wide c = .ok t ∧ Cuts s t
      ∧ ShowsFirst narrow.missExampleLimit a.missed s ∧ ShowsFirst wide.missExampleLimit a.missed t)
    ∧ (¬ a.Countable → ofAnalysis a narrow c = .error .countTooLarge
      ∧ ofAnalysis a wide c = .error .countTooLarge) := by
  constructor
  · intro hc
    obtain ⟨x, y, hs⟩ := exists_shares hpos hc
    exact ⟨_, _, hs narrow c, hs wide c, cuts_ofShares a c x y hexamples hmisses htop,
      showsFirst_ofShares a c x y narrow, showsFirst_ofShares a c x y wide⟩
  · intro hc
    exact ⟨ofAnalysis_of_not_countable hpos hc narrow c, ofAnalysis_of_not_countable hpos hc wide c⟩

/-- no examples at all, and one of each pattern -/
theorem ofAnalysis_limits_crowded :
    0 < Analysis.crowded.totalInstructions
    ∧ ∃ s t, ofAnalysis .crowded { missExampleLimit := 0, topFunctions := 1 } .appleM = .ok s
      ∧ ofAnalysis .crowded { exampleLimit := 1, missExampleLimit := 1 } .appleM = .ok t
      ∧ Cuts s t
      ∧ s.missExamples = [("late", []), ("early", [])]
      ∧ t.missExamples = [("late", [⟨"g", "14", "late", "", ""⟩]),
        ("early", [⟨"g", "1c", "early", "", ""⟩])] := by
  have hpos : 0 < Analysis.crowded.totalInstructions := by decide
  obtain ⟨s, t, hs, ht, hcuts, -, -⟩ := (ofAnalysis_limits .crowded .appleM
    { missExampleLimit := 0, topFunctions := 1 } { exampleLimit := 1, missExampleLimit := 1 } hpos
    (by decide) (by decide) (by decide)).1 Analysis.crowded_countable
  refine ⟨hpos, s, t, hs, ht, hcuts, ?_, ?_⟩
  · obtain ⟨-, x, y, rfl⟩ := of_ofAnalysis_ok hpos.le hs
    rfl
  · obtain ⟨-, x, y, rfl⟩ := of_ofAnalysis_ok hpos.le ht
    rfl

end MacroFusion.Summary
