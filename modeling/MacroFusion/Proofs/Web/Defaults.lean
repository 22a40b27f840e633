import MacroFusion.Proofs.Web.Answers

/-!
# Defaults: what a request leaves open

A request that sets no option is carried out as the server is configured, except for one thing: its limit
of examples is always the one that follows from `verbose`, never one that the server was given.  So the
answer is the summary of the run that the server's configuration stands for, with examples up to the
other limit.  No number of a summary depends on the limit.  All of this goes for every depth and length of
numbers up to which a body is read.

* `Summary.showing`, `Run.showing`   the same with examples up to a limit;
* `run_limit`            a run under another limit of examples is the same run but for these;
* `LeavesOpen`           options that set nothing;
* `effective_of_leavesOpen`   the configuration they make is the server's, but for the limit;
* `Response.Delivers.examples`   an answer shows the examples that its summary has;
* `AnsweredByDefault`, `respond_default`   what a request without options is answered with, and when that
                         is the summary of the run under the server's own configuration.
-/

namespace MacroFusion

/-! ## Limits of examples -/

/-- the examples of an analysis up to a limit, in a summary of it -/
def Summary.showing (limit : Nat) (a : Analysis) (s : Summary) : Summary :=
  { s with
    universalExamples := a.universalMatches.take limit
    specificExamples := a.specificMatches.take limit }

theorem Summary.ofAnalysis_limit (a : Analysis) (config : Config) (c : Catalog) (limit : Nat)
    (format : Format) :
    ofAnalysis a { config with exampleLimit := limit, format } c
      = (ofAnalysis a config c).map (showing limit a) := by
  by_cases h : a.totalInstructions = 0
  · rw [ofAnalysis_of_zero h, ofAnalysis_of_zero h]
    rfl
  · rw [ofAnalysis_of_ne_zero h, ofAnalysis_of_ne_zero h]
    cases percentage a.fused.length a.totalInstructions with
    | error f => rfl
    | ok improvement =>
      cases percentage a.specificMatches.length a.totalInstructions with
      | error f => rfl
      | ok advantage => rfl

namespace Run

/-- the run with examples up to a limit -/
def showing (limit : Nat) (run : Run) : Run :=
  { run with summary := run.summary.showing limit run.analysis }

theorem withCatalog_limit (text : String) (config : Config) (c : Catalog) (limit : Nat)
    (format : Format) :
    withCatalog text { config with exampleLimit := limit, format } c
      = (withCatalog text config c).map (showing limit) := by
  by_cases hl : Unlisted text
  · rw [withCatalog_of_unlisted hl, withCatalog_of_unlisted hl]
    rfl
  · rw [withCatalog_of_listed hl, withCatalog_of_listed hl]
    have hs := Summary.ofAnalysis_limit (analyze (listingOf text) config c) config c limit format
    rw [show analyze (listingOf text) { config with exampleLimit := limit, format } c
      = analyze (listingOf text) config c from rfl, hs]
    cases Summary.ofAnalysis (analyze (listingOf text) config c) config c with
    | error f => rfl
    | ok s => rfl

/-- **A limit of examples only cuts the examples.** -/
theorem run_limit (registry : Registry) (text : String) (config : Config) (limit : Nat)
    (format : Format) :
    run registry text { config with exampleLimit := limit, format } none
      = (run registry text config none).map (showing limit) := by
  rw [run_none, run_none]
  cases registry.get config.catalog with
  | ok e => exact withCatalog_limit text config e.catalog limit format
  | error f => rfl

/-- a run keeps as many examples as its configuration allows -/
theorem showing_exampleLimit {registry : Registry} {text : String} {config : Config}
    {catalog : Option Catalog} {r : Run} (h : run registry text config catalog = .ok r) :
    r.summary = r.summary.showing config.exampleLimit r.analysis := by
  rcases run_cases registry config catalog with ⟨c, hrun⟩ | ⟨f, hrun⟩
  · rw [hrun] at h
    obtain ⟨-, -, -, -, x, y, hs⟩ := of_withCatalog_ok h
    rw [hs]
    rfl
  · rw [hrun] at h
    cases h

end Run

namespace Web

/-! ## Options that set nothing -/

/-- no option is set; the two that may be empty count as left out if they are -/
structure LeavesOpen (options : List (String × Json)) : Prop where
  proper : Proper options
  function_none : given? options "function" = none
  catalog_none : given? options "catalog" = none
  verbose_none : options.lookup "verbose" = none

theorem leavesOpen_nil : LeavesOpen [] := ⟨⟨Or.inl rfl, Or.inl rfl⟩, rfl, rfl, rfl⟩

/-- the limit of examples that follows from `verbose` -/
def derivedLimit (config : Config) : Nat := if config.verbose then 50 else 0

theorem effective_of_leavesOpen {options : List (String × Json)} (h : LeavesOpen options)
    (server : Config) :
    effective server options
      = { server with exampleLimit := derivedLimit server, format := .markdown } := by
  have hverbose : verboseOption server options = server.verbose := by
    unfold verboseOption
    rw [h.verbose_none]
  unfold effective
  rw [h.function_none, h.catalog_none, hverbose]
  rfl

/-! ## Examples in an answer -/

theorem Response.Delivers.examples {response : Response} {run : Run} (h : response.Delivers run) :
    response.body.bind (·.field? "examples") = some run.summary.examplesJson := by
  obtain ⟨summary, hj, rfl⟩ := h
  have hfield : summary.fields.lookup "examples" = some run.summary.examplesJson :=
    Summary.field?_examples hj
  show (summary.fields ++ _).lookup "examples" = _
  rw [List.lookup_append, hfield]
  rfl

theorem length_examples {s t : Summary} (h : s.examplesJson = t.examplesJson) :
    s.universalExamples.length = t.universalExamples.length
    ∧ s.specificExamples.length = t.specificExamples.length := by
  unfold Summary.examplesJson at h
  simp only [Json.object.injEq, List.cons.injEq, Prod.mk.injEq, Json.array.injEq] at h
  have huniversal := congrArg List.length h.1.2
  have hspecific := congrArg List.length h.2.1.2
  rw [List.length_map, List.length_map] at huniversal hspecific
  exact ⟨huniversal, hspecific⟩

/-- an answer that shows the examples of a run up to one limit also shows them up to another one just
where the limits cut alike -/
theorem delivers_showing_iff {response : Response} {run : Run} {limit : Nat}
    (h : response.Delivers (run.showing limit)) (other : Nat) :
    response.Delivers (run.showing other)
      ↔ ∀ found ∈ [run.analysis.universalMatches, run.analysis.specificMatches],
          found.take other = found.take limit := by
  constructor
  · intro ho
    have hj : (run.showing other).summary.examplesJson = (run.showing limit).summary.examplesJson :=
      Option.some.inj (ho.examples.symm.trans h.examples)
    obtain ⟨huniversal, hspecific⟩ := length_examples hj
    have htake : ∀ found : List Match, (found.take other).length = (found.take limit).length →
        found.take other = found.take limit := by
      intro found hl
      rw [List.length_take, List.length_take] at hl
      exact List.take_eq_take_iff.mpr hl
    intro found hf
    rcases List.mem_pair.mp hf with rfl | rfl
    · exact htake _ huniversal
    · exact htake _ hspecific
  · intro hall
    have heq : run.showing other = run.showing limit := by
      unfold Run.showing Summary.showing
      rw [hall _ List.mem_cons_self, hall _ (List.mem_cons_of_mem _ List.mem_cons_self)]
    rw [heq]
    exact h

/-! ## Requests without options -/

/-- a text that is posted as it is -/
def Request.ofText (text : String) : Request := posted "text/plain" (Text.encode text)

theorem brings_ofText (limits : Json.Limits) (text : String) :
    (Request.ofText text).Brings limits text [] := by
  have hj : (Request.ofText text).isJson = false := by
    show (Request.posted "text/plain" []).isJson = false
    decide +kernel
  have ht : (Request.ofText text).text = text := by
    show String.ofList (Text.decode (Text.encode text)) = text
    rw [Text.decode_encode, String.ofList_toList]
  have ho : (Request.ofText text).options = [] := by
    show (Request.posted "text/plain" []).options = []
    decide +kernel
  have hb : (Request.ofText text).Brings limits _ _ := .plain hj
  rwa [ht, ho] at hb

/-- the answer is the summary of the run but for the examples, and for these too where the limit of the
server cuts as the one that follows from `verbose` -/
structure AnsweredByDefault (server : Config) (run : Run) (response : Response) : Prop where
  delivers : response.Delivers (run.showing (derivedLimit server))
  delivers_iff : response.Delivers run
    ↔ ∀ found ∈ [run.analysis.universalMatches, run.analysis.specificMatches],
        found.take server.exampleLimit = found.take (derivedLimit server)

/-- **What a request without options is answered with**: where the text can be run as the server is
configured, the summary of this run with as many examples as follow from `verbose`.  This goes for every
way to post the text, and so for the text as it is. -/
theorem respond_default {limits : Json.Limits} {server : Config} {calls : List Registry.Call}
    {text : String} {run : Run} (hrun : Run.run (Registry.after calls) text server none = .ok run) :
    (∀ r options, r.Submits → r.Brings limits text options → LeavesOpen options →
      AnsweredByDefault server run (respond limits server (Registry.after calls) r))
    ∧ ((Text.encode text).length ≤ Request.greatestSize →
      AnsweredByDefault server run (respond limits server (Registry.after calls) (.ofText text))) := by
  have hall : ∀ r options, r.Submits → r.Brings limits text options → LeavesOpen options →
      AnsweredByDefault server run (respond limits server (Registry.after calls) r) := by
    intro r options hs hb hopen
    have hread : readOrder limits server r = .ok ⟨text, effective server options⟩ := by
      rw [readOrder_of_brings hb]
      rcases orderOf_cases server text hopen.proper.mended with ⟨-, ho⟩ | ⟨hp, -⟩
      · exact ho
      · exact absurd hopen.proper hp
    have hlimited : Run.run (Registry.after calls) text (effective server options) none
        = .ok (run.showing (derivedLimit server)) := by
      rw [effective_of_leavesOpen hopen, Run.run_limit, hrun]
      rfl
    have hdelivers : (respond limits server (Registry.after calls) r).Delivers
        (run.showing (derivedLimit server)) := by
      rw [(respond_of_order _ hs hread).2 _ hlimited]
      exact delivers_runResponse hlimited
    have hself : run.showing server.exampleLimit = run := by
      unfold Run.showing
      rw [← Run.showing_exampleLimit hrun]
    refine ⟨hdelivers, ?_⟩
    have hiff := delivers_showing_iff hdelivers server.exampleLimit
    rwa [hself] at hiff
  refine ⟨hall, fun hsize => ?_⟩
  exact hall _ [] (Request.submits_posted hsize) (brings_ofText limits text) leavesOpen_nil

/-- a listing with one pair that both cores fuse -/
def comparing : String := "_f:\n  0:\tcmp x0, x1\n  4:\tb.eq 8\n"

/-- a server that is to show five examples shows none of them -/
theorem respond_default_comparing :
    let limits : Json.Limits := { depth := 1000, digits := some 4300 }
    ∃ run, Run.run (Registry.after []) comparing { exampleLimit := 5 } none = .ok run
      ∧ (Text.encode comparing).length ≤ Request.greatestSize
      ∧ AnsweredByDefault { exampleLimit := 5 } run
        (respond limits { exampleLimit := 5 } (Registry.after []) (.ofText comparing))
      ∧ ¬ (respond limits { exampleLimit := 5 } (Registry.after []) (.ofText comparing)).Delivers run := by
  intro limits
  have hsize : (Text.encode comparing).length ≤ Request.greatestSize := by decide +kernel
  have hcount : (Run.run (Registry.after []) comparing { exampleLimit := 5 } none).toOption.map
      (fun run => run.analysis.universalMatches.length) = some 1 := by decide +kernel
  cases hrun : Run.run (Registry.after []) comparing { exampleLimit := 5 } none with
  | error f =>
    rw [hrun] at hcount
    cases hcount
  | ok run =>
    rw [hrun] at hcount
    have hone : run.analysis.universalMatches.length = 1 := Option.some.inj hcount
    have hanswer : AnsweredByDefault { exampleLimit := 5 } run
        (respond limits { exampleLimit := 5 } (Registry.after []) (.ofText comparing)) :=
      (respond_default hrun).2 hsize
    refine ⟨run, rfl, hsize, hanswer, fun hdelivers => ?_⟩
    -- one example up to the limit of the server, none up to the other
    have hlength := congrArg List.length (hanswer.delivers_iff.mp hdelivers _ List.mem_cons_self)
    rw [List.length_take, List.length_take, hone] at hlength
    exact absurd hlength (by decide)

end Web

end MacroFusion
