import MacroFusion.Proofs.Analysis.Selection
import MacroFusion.Proofs.Listing.Grouping
import MacroFusion.Proofs.Registry.History
import MacroFusion.Run

/-!
# Outcomes: how a run ends

A run passes three stages, each with a check of its own: the catalog has to be there, the text has to
have an instruction line, and the selected functions have to have an instruction.  The first check that
fails gives the fault.  What the conditions say is put in terms of the text, the names of functions and
the registered names, not of the stages.

* `Unregistered`, `Unlisted`, `FilteredOut`   when a stage has nothing to go on with;
* `Named`, `namedInstructions`   the functions that a filter stands for, and their instructions;
* `totalInstructions_analyze`    an analysis covers just these instructions;
* `namedInstructions_eq_zero_iff`   in a text with an instruction line there are none only if they are
                                 filtered out, so the check for an analysis of nothing is idle;
* `Ends`, `run_ends`             the endings, each with its condition;
* `run_outcome`                  when a run ends in which way.
-/

namespace MacroFusion.Run

/-! ## The conditions -/

/-- a catalog has to be looked up, and its name is not registered -/
def Unregistered (registry : Registry) (config : Config) (catalog : Option Catalog) : Prop :=
  catalog = none ∧ config.catalog ≠ "" ∧ config.catalog ∉ registry.available

/-- the catalog that a run works with -/
def Chosen (registry : Registry) (config : Config) (catalog : Option Catalog) (c : Catalog) : Prop :=
  catalog = some c
    ∨ catalog = none ∧ ∃ e, registry.find? (Registry.keyOf config.catalog) = some e ∧ e.catalog = c

/-- no line of the text is an instruction line -/
def Unlisted (text : String) : Prop := ∀ l ∈ Listing.classified text, l.isInstruction = false

/-- the listing of a text -/
def listingOf (text : String) : Listing := Listing.ofLines (Listing.classified text)

/-- the name of the function contains the filter, which the empty filter always is -/
def Named (filter : Option String) (f : Function) : Prop :=
  ∀ pattern, filter = some pattern → pattern.toList <:+: f.name.toList

instance (filter : Option String) (f : Function) : Decidable (Named filter f) :=
  match filter with
  | none => isTrue fun _ h => nomatch h
  | some pattern => decidable_of_iff (pattern.toList <:+: f.name.toList)
      ⟨fun h _ he => Option.some.inj he ▸ h, fun h => h pattern rfl⟩

/-- how many instructions the functions have whose name contains the filter -/
def namedInstructions (text : String) (filter : Option String) : Nat :=
  (((listingOf text).functions.filter fun f => Named filter f).map fun f => f.instructions.length).sum

/-- there is a filter, and the functions whose name contains it have no instructions -/
def FilteredOut (text : String) (filter : Option String) : Prop :=
  ∃ pattern, filter = some pattern ∧ pattern ≠ ""
    ∧ ∀ f ∈ (listingOf text).functions, pattern.toList <:+: f.name.toList → f.instructions = []

/-- the counts of the run are in the range of floating-point numbers -/
def InRange (registry : Registry) (text : String) (config : Config) (catalog : Option Catalog) :
    Prop :=
  ∃ c, Chosen registry config catalog c ∧ (analyze (listingOf text) config c).Countable

/-! ## What is selected -/

theorem select_eq (filter : Option String) (fs : List Function) :
    Analysis.select filter fs = fs.filter fun f => Named filter f := by
  cases filter with
  | none =>
    have h : ∀ f ∈ fs, decide (Named none f) = true :=
      fun f _ => decide_eq_true fun _ he => nomatch he
    rw [List.filter_eq_self.mpr h]
    rfl
  | some pattern =>
    have hn : ∀ f, decide (Named (some pattern) f) = decide (pattern.toList <:+: f.name.toList) := by
      intro f
      rw [Bool.eq_iff_iff, decide_eq_true_iff, decide_eq_true_iff]
      exact ⟨fun h => h pattern rfl, fun h _ he => Option.some.inj he ▸ h⟩
    rw [Analysis.select_some, List.filter_congr fun f _ => hn f]

theorem totalInstructions_analyze (text : String) (config : Config) (c : Catalog) :
    (analyze (listingOf text) config c).totalInstructions = namedInstructions text config.filter := by
  unfold analyze
  rw [Analysis.run_eq, Analysis.totalInstructions_ofFunctions, select_eq]
  rfl

theorem sum_eq_zero_iff (fs : List Function) :
    (fs.map fun f => f.instructions.length).sum = 0 ↔ ∀ f ∈ fs, f.instructions = [] := by
  rw [← List.length_flatMap, List.length_eq_zero_iff, List.flatMap_eq_nil_iff]

/-- a text with an instruction line has a function with an instruction -/
theorem exists_instructions {text : String} (h : ¬ Unlisted text) :
    ¬ ∀ f ∈ (listingOf text).functions, f.instructions = [] := by
  intro hn
  apply h
  have h0 : (listingOf text).instructionCount = 0 := by
    show ((listingOf text).functions.flatMap (·.instructions)).length = 0
    rw [List.length_eq_zero_iff, List.flatMap_eq_nil_iff]
    exact hn
  rw [listingOf, Listing.instructionCount_ofLines, List.countP_eq_zero] at h0
  intro l hl
  simpa using h0 l hl

theorem namedInstructions_eq_zero_iff {text : String} (h : ¬ Unlisted text)
    (filter : Option String) : namedInstructions text filter = 0 ↔ FilteredOut text filter := by
  have hz : namedInstructions text filter = 0
      ↔ ∀ f ∈ (listingOf text).functions, Named filter f → f.instructions = [] := by
    unfold namedInstructions
    rw [sum_eq_zero_iff]
    simp only [List.mem_filter, decide_eq_true_iff, and_imp]
  rw [hz]
  constructor
  · intro hn
    cases filter with
    | none => exact absurd (fun f hf => hn f hf fun _ he => nomatch he) (exists_instructions h)
    | some pattern =>
      have hp : pattern ≠ "" := by
        -- the empty text is part of every name
        intro he
        refine exists_instructions h fun f hf => hn f hf fun p hp => ?_
        rw [← Option.some.inj hp, he]
        exact List.nil_infix
      refine ⟨pattern, rfl, hp, fun f hf hpart => hn f hf fun p he => ?_⟩
      rw [← Option.some.inj he]
      exact hpart
  · rintro ⟨pattern, rfl, _, hn⟩ f hf hnamed
    exact hn f hf (hnamed pattern rfl)

/-! ## The stages -/

theorem run_some (registry : Registry) (text : String) (config : Config) (c : Catalog) :
    run registry text config (some c) = withCatalog text config c := by
  unfold run
  generalize withCatalog text config = next
  rfl

theorem run_none (registry : Registry) (text : String) (config : Config) :
    run registry text config none
      = match registry.get config.catalog with
        | .ok e => withCatalog text config e.catalog
        | .error f => .error f := by
  unfold run
  generalize withCatalog text config = next
  cases registry.get config.catalog with
  | ok e => rfl
  | error f => rfl

/-- The catalog is the first thing to be settled. -/
theorem run_catalog (calls : List Registry.Call) (text : String) (config : Config)
    (catalog : Option Catalog) :
    (Unregistered (Registry.after calls) config catalog
      ∧ run (Registry.after calls) text config catalog = .error (.unknownCatalog config.catalog))
    ∨ (¬ Unregistered (Registry.after calls) config catalog
      ∧ ∃ c, (∀ c', Chosen (Registry.after calls) config catalog c' ↔ c' = c)
        ∧ run (Registry.after calls) text config catalog = withCatalog text config c) := by
  cases catalog with
  | some c =>
    refine Or.inr ⟨fun h => (nomatch h.1), c, fun c' => ?_, run_some _ text config c⟩
    constructor
    · rintro (h | ⟨h, _⟩)
      · exact (Option.some.inj h).symm
      · cases h
    · rintro rfl
      exact Or.inl rfl
  | none =>
    rcases Registry.get_after_eq calls config.catalog with ⟨e, hf, hg, hm⟩ | ⟨hg, hne, hm⟩
    · refine Or.inr ⟨?_, e.catalog, fun c' => ?_, by rw [run_none, hg]⟩
      · rintro ⟨_, hne, hn⟩
        exact hm.elim hne hn
      · constructor
        · rintro (h | ⟨_, e', hf', rfl⟩)
          · cases h
          · rw [hf] at hf'
            rw [Option.some.inj hf']
        · rintro rfl
          exact Or.inr ⟨rfl, e, hf, rfl⟩
    · exact Or.inl ⟨⟨rfl, hne, hm⟩, by rw [run_none, hg]⟩

theorem withCatalog_of_unlisted {text : String} (h : Unlisted text) (config : Config) (c : Catalog) :
    withCatalog text config c
      = .error (.noInstructionLines (Listing.classified text).length) := by
  unfold withCatalog
  rw [Listing.read_of_no_instruction h]
  rfl

theorem withCatalog_of_listed {text : String} (h : ¬ Unlisted text) (config : Config) (c : Catalog) :
    withCatalog text config c
      = (Summary.ofAnalysis (analyze (listingOf text) config c) config c).map fun summary =>
          { listing := listingOf text, analysis := analyze (listingOf text) config c, summary } := by
  have hex : ∃ l ∈ Listing.classified text, l.isInstruction = true := by
    simpa [Unlisted] using h
  unfold withCatalog
  rw [Listing.read_of_instruction hex]
  show (Summary.ofAnalysis (analyze (listingOf text) config c) config c >>= _) = _
  cases Summary.ofAnalysis (analyze (listingOf text) config c) config c with
  | error f => rfl
  | ok s => rfl

/-! ## The endings -/

/-- the endings of a run, each with its condition -/
inductive Ends (registry : Registry) (text : String) (config : Config) (catalog : Option Catalog) :
    Except Fault Run → Prop
  | unknownCatalog (h : Unregistered registry config catalog) :
    Ends registry text config catalog (.error (.unknownCatalog config.catalog))
  | noInstructionLines (h : ¬ Unregistered registry config catalog) (hu : Unlisted text) :
    Ends registry text config catalog
      (.error (.noInstructionLines (Listing.classified text).length))
  | noInstructionsMatching (h : ¬ Unregistered registry config catalog) (hu : ¬ Unlisted text)
    (hf : FilteredOut text config.filter) (pattern : String) (hp : config.filter = some pattern) :
    Ends registry text config catalog (.error (.noInstructionsMatching pattern))
  | countTooLarge (h : ¬ Unregistered registry config catalog) (hu : ¬ Unlisted text)
    (hf : ¬ FilteredOut text config.filter) (hr : ¬ InRange registry text config catalog) :
    Ends registry text config catalog (.error .countTooLarge)
  | ok (h : ¬ Unregistered registry config catalog) (hu : ¬ Unlisted text)
    (hf : ¬ FilteredOut text config.filter) (hr : InRange registry text config catalog) (r : Run)
    (hpos : 0 < r.summary.totalInstructions)
    (ht : r.summary.totalInstructions = namedInstructions text config.filter) :
    Ends registry text config catalog (.ok r)

theorem run_ends (calls : List Registry.Call) (text : String) (config : Config)
    (catalog : Option Catalog) :
    Ends (Registry.after calls) text config catalog
      (run (Registry.after calls) text config catalog) := by
  rcases run_catalog calls text config catalog with ⟨h, hrun⟩ | ⟨h, c, hc, hrun⟩
  · rw [hrun]
    exact .unknownCatalog h
  rw [hrun]
  by_cases hu : Unlisted text
  · rw [withCatalog_of_unlisted hu]
    exact .noInstructionLines h hu
  rw [withCatalog_of_listed hu]
  have ht := totalInstructions_analyze text config c
  have hz := namedInstructions_eq_zero_iff hu config.filter
  by_cases hf : FilteredOut text config.filter
  · have h0 : (analyze (listingOf text) config c).totalInstructions = 0 := by
      rw [ht, hz.mpr hf]
      rfl
    obtain ⟨pattern, hp, hne, _⟩ := id hf
    have he : pattern.isEmpty = false := by
      rw [← Bool.not_eq_true, String.isEmpty_iff]
      exact hne
    rw [Summary.ofAnalysis_of_zero h0, hp]
    show Ends _ _ _ _ (.error (if pattern.isEmpty = true then _ else _))
    rw [he]
    exact .noInstructionsMatching h hu hf pattern hp
  have hpos : 0 < (analyze (listingOf text) config c).totalInstructions := by
    have := mt hz.mp hf
    omega
  by_cases hr : (analyze (listingOf text) config c).Countable
  · obtain ⟨x, y, hok⟩ := Summary.ofAnalysis_of_countable hpos hr config c
    rw [hok]
    exact .ok h hu hf ⟨c, (hc c).mpr rfl, hr⟩ _ hpos ht
  · rw [Summary.ofAnalysis_of_not_countable hpos hr]
    refine .countTooLarge h hu hf ?_
    rintro ⟨c', hc', hr'⟩
    rw [(hc c').mp hc'] at hr'
    exact hr hr'

/-- **How a run ends**, in the order of precedence: the catalog is not registered, the text has no
instruction line, the filter leaves no instruction; otherwise the run succeeds, and covers the
instructions that the filter stands for, as long as its counts are in range. -/
theorem run_outcome (calls : List Registry.Call) (text : String) (config : Config)
    (catalog : Option Catalog) :
    let registry := Registry.after calls
    let outcome := run registry text config catalog
    (outcome = .error (.unknownCatalog config.catalog) ↔ Unregistered registry config catalog)
    ∧ (outcome = .error (.noInstructionLines (Listing.classified text).length)
      ↔ ¬ Unregistered registry config catalog ∧ Unlisted text)
    ∧ ((∃ pattern, config.filter = some pattern
        ∧ outcome = .error (.noInstructionsMatching pattern))
      ↔ ¬ Unregistered registry config catalog ∧ ¬ Unlisted text ∧ FilteredOut text config.filter)
    ∧ ((∃ r, outcome = .ok r)
      ↔ ¬ Unregistered registry config catalog ∧ ¬ Unlisted text ∧ ¬ FilteredOut text config.filter
        ∧ InRange registry text config catalog)
    ∧ (outcome = .error .countTooLarge
      ↔ ¬ Unregistered registry config catalog ∧ ¬ Unlisted text ∧ ¬ FilteredOut text config.filter
        ∧ ¬ InRange registry text config catalog)
    ∧ (∀ r, outcome = .ok r → 0 < r.summary.totalInstructions
      ∧ r.summary.totalInstructions = namedInstructions text config.filter)
    ∧ (∀ f, outcome = .error f → f ≠ .nothingAnalyzed ∧ f ≠ .zeroTotal
      ∧ (f.kind? = some .configuration ↔ Unregistered registry config catalog)
      ∧ (f.kind? = some .noInstructions ↔ ¬ Unregistered registry config catalog
        ∧ (Unlisted text ∨ FilteredOut text config.filter))) := by
  intro registry outcome
  have hends : Ends registry text config catalog outcome := run_ends calls text config catalog
  clear_value outcome
  cases hends with
  | unknownCatalog h =>
    have hk : (Fault.unknownCatalog config.catalog).kind? = some .configuration := rfl
    simp [h, hk]
  | noInstructionLines h hu =>
    have hk : ∀ n, (Fault.noInstructionLines n).kind? = some .noInstructions := fun _ => rfl
    simp [h, hu, hk]
  | noInstructionsMatching h hu hf pattern hp =>
    have hk : (Fault.noInstructionsMatching pattern).kind? = some .noInstructions := rfl
    have hp' : ∃ other, config.filter = some other ∧ pattern = other := ⟨pattern, hp, rfl⟩
    simp [h, hu, hf, hk, hp']
  | countTooLarge h hu hf hr =>
    have hk : Fault.countTooLarge.kind? = none := rfl
    simp [h, hu, hf, hr, hk]
  | ok h hu hf hr r hpos ht =>
    have hpos' : 0 < namedInstructions text config.filter := by omega
    simp [h, hu, hf, hr, ht, hpos']

end MacroFusion.Run
