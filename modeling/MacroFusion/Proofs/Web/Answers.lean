import MacroFusion.Proofs.Run.Joining
import MacroFusion.Proofs.Run.Size
import MacroFusion.Proofs.Summary.Data
import MacroFusion.Proofs.Web.Orders

/-!
# Answers: what a posted listing is answered with

A listing that is posted is answered by the first check that fails: the request has to have an order, the
catalog of the order has to be registered, and its listing has to have instructions that the filter
leaves.  Otherwise the answer is the summary of the run.

Two things remain in which the server has no answer of its own (status 500, without a body that tells of
an error): a JSON body that is nested too deep, and counts beyond the range of floating-point numbers.
The size of a body rules the second out for every catalog that a memory can hold, so the first is what
is left.

* `Response.Reports`, `Response.Delivers`   answers that tell of an error or bring a summary;
* `Order.Unknown`, `Order.Empty`, `Order.InRange`   what decides on an order;
* `reports_faultResponse_iff`, `delivers_runResponse`   the answers to faults and to runs;
* `Asks.inRange`       the counts of an order are in range unless its catalog is immense;
* `Answered`, `respond_answered`   the answers, each with its condition;
* `respond_submitted`  when a posted listing is answered in which way;
* `tooDeep_nested_iff` where the limit of nesting is.
-/

namespace MacroFusion.Web

/-! ## Kinds of answers -/

/-- the answer has the status and names the kind of error -/
def Response.Reports (response : Response) (status : Nat) (kind : Diagnostic.Kind) : Prop :=
  response.status = status ∧ response.body.bind (·.field? "error") = some (.string kind.label)

/-- the answer is the summary of the run, with the number of functions that were read -/
def Response.Delivers (response : Response) (run : Run) : Prop :=
  ∃ summary, run.summary.toJson = .ok summary
    ∧ response = { status := 200, body := some (.object (summary.fields
      ++ [("functions_parsed", .integer run.listing.functions.length)])) }

theorem label_inj {k l : Diagnostic.Kind} (h : k.label = l.label) : k = l := by
  cases k <;> cases l <;> simp_all [Diagnostic.Kind.label]

theorem reports_faultResponse_iff {f : Fault} {kind : Diagnostic.Kind} (h : f.kind? = some kind)
    (status : Nat) (other : Diagnostic.Kind) :
    (faultResponse f).Reports status other ↔ status = statusOf kind ∧ other = kind := by
  obtain ⟨d, hd, rfl⟩ := Option.map_eq_some_iff.mp h
  unfold Response.Reports faultResponse
  rw [hd]
  show statusOf d.kind = status ∧ some (Json.string d.kind.label) = some (.string other.label) ↔ _
  constructor
  · rintro ⟨hs, hk⟩
    exact ⟨hs.symm, (label_inj (Json.string.inj (Option.some.inj hk))).symm⟩
  · rintro ⟨rfl, rfl⟩
    exact ⟨rfl, rfl⟩

theorem status_faultResponse {f : Fault} {kind : Diagnostic.Kind} (h : f.kind? = some kind) :
    (faultResponse f).status = statusOf kind :=
  ((reports_faultResponse_iff h _ _).mpr ⟨rfl, rfl⟩).1

/-- every run that succeeds has a summary that can be written -/
theorem delivers_runResponse {registry : Registry} {text : String} {config : Config}
    {catalog : Option Catalog} {run : Run} (h : Run.run registry text config catalog = .ok run) :
    (runResponse run).Delivers run := by
  rcases Run.run_cases registry config catalog with ⟨c, hrun⟩ | ⟨f, hrun⟩
  · rw [hrun] at h
    obtain ⟨-, -, -, -, x, y, hsummary⟩ := Run.of_withCatalog_ok h
    obtain ⟨j, hj⟩ := Summary.toJson_ofShares run.analysis config c x y
    rw [← hsummary] at hj
    refine ⟨j, hj, ?_⟩
    unfold runResponse
    rw [hj]
  · rw [hrun] at h
    cases h

/-! ## What decides on an order -/

namespace Order

/-- the catalog is not registered -/
def Unknown (registry : Registry) (o : Order) : Prop := Run.Unregistered registry o.config none

/-- the listing has no instruction line, or none that the filter leaves -/
def Empty (o : Order) : Prop := Run.Unlisted o.text ∨ Run.FilteredOut o.text o.config.filter

/-- the counts are in the range of floating-point numbers -/
def InRange (registry : Registry) (o : Order) : Prop := Run.InRange registry o.text o.config none

end Order

theorem Asks.inRange {limits : Json.Limits} {server : Config} {registry : Registry} {r : Request}
    {o : Order} {c : Catalog} (h : Asks limits server r o)
    (hsize : r.body.length ≤ Request.greatestSize) (hc : Run.Chosen registry o.config none c)
    (hrules : c.rules.length ≤ 2 ^ 900) : o.InRange registry := by
  have hlength : o.text.toList.length ≤ 2 ^ 28 := Nat.le_trans h.length_le hsize
  exact ⟨c, hc, Run.countable_of_length (by decide) hlength hrules o.config⟩

/-! ## The answers -/

section
variable (limits : Json.Limits) (server : Config) (registry : Registry) (r : Request)

/-- the answers to a posted listing, each with its condition -/
inductive Answered : Response → Prop
  | tooDeep (hd : r.TooDeep limits) (hn : ∀ o, ¬ Asks limits server r o) :
    Answered { status := 500, body := none }
  | input (hd : ¬ r.TooDeep limits) (hn : ∀ o, ¬ Asks limits server r o) (f : Fault)
    (hf : f.kind? = some .input) : Answered (faultResponse f)
  | configuration (hd : ¬ r.TooDeep limits) (o : Order) (ho : ∀ o', Asks limits server r o' ↔ o' = o)
    (hu : o.Unknown registry) (f : Fault) (hf : f.kind? = some .configuration) :
    Answered (faultResponse f)
  | noInstructions (hd : ¬ r.TooDeep limits) (o : Order) (ho : ∀ o', Asks limits server r o' ↔ o' = o)
    (hu : ¬ o.Unknown registry) (he : o.Empty) (f : Fault) (hf : f.kind? = some .noInstructions) :
    Answered (faultResponse f)
  | tooLarge (hd : ¬ r.TooDeep limits) (o : Order) (ho : ∀ o', Asks limits server r o' ↔ o' = o)
    (hu : ¬ o.Unknown registry) (he : ¬ o.Empty) (hr : ¬ o.InRange registry) :
    Answered { status := 500, body := none }
  | summary (hd : ¬ r.TooDeep limits) (o : Order) (ho : ∀ o', Asks limits server r o' ↔ o' = o)
    (hu : ¬ o.Unknown registry) (he : ¬ o.Empty) (hr : o.InRange registry) (run : Run)
    (hrun : Run.run registry o.text o.config none = .ok run) (response : Response)
    (hresponse : response.Delivers run) : Answered response

end

theorem respond_answered {limits : Json.Limits} (server : Config) (calls : List Registry.Call)
    {r : Request} (hs : r.Submits) (hw : r.Whole limits) :
    Answered limits server (Registry.after calls) r
      (respond limits server (Registry.after calls) r) := by
  rcases readOrder_cases server hw with
    ⟨hd, hn, hread⟩ | ⟨hd, hn, f, hread, hkind⟩ | ⟨hd, o, ho, hread⟩
  · rw [respond_of_fault _ hs hread]
    exact .tooDeep hd hn
  · rw [respond_of_fault _ hs hread]
    exact .input hd hn f hkind
  -- an order is answered as its run ends
  have hends := Run.run_ends calls o.text o.config none
  generalize Registry.after calls = registry at hends ⊢
  obtain ⟨hfault, hok⟩ := respond_of_order registry hs hread
  generalize hout : Run.run registry o.text o.config none = outcome at hends
  cases hends with
  | unknownCatalog hu =>
    rw [hfault _ hout]
    exact .configuration hd o ho hu _ rfl
  | noInstructionLines hu he =>
    rw [hfault _ hout]
    exact .noInstructions hd o ho hu (Or.inl he) _ rfl
  | noInstructionsMatching hu _ he =>
    rw [hfault _ hout]
    exact .noInstructions hd o ho hu (Or.inr he) _ rfl
  | countTooLarge hu hl hf hr =>
    rw [hfault _ hout]
    exact .tooLarge hd o ho hu (fun he => he.elim hl hf) hr
  | ok hu hl hf hr run =>
    rw [hok _ hout]
    exact .summary hd o ho hu (fun he => he.elim hl hf) hr run hout _ (delivers_runResponse hout)

/-- **The answer goes by the order**, and by the first thing that is wrong with it. -/
structure GoesBy (limits : Json.Limits) (server : Config) (registry : Registry) (r : Request)
    (response : Response) : Prop where
  input_iff : response.Reports 400 .input ↔ ¬ r.TooDeep limits ∧ ∀ o, ¬ Asks limits server r o
  configuration_iff : response.Reports 400 .configuration
    ↔ ∃ o, Asks limits server r o ∧ o.Unknown registry
  noInstructions_iff : response.Reports 422 .noInstructions
    ↔ ∃ o, Asks limits server r o ∧ ¬ o.Unknown registry ∧ o.Empty
  ok_iff : response.status = 200
    ↔ ∃ o, Asks limits server r o ∧ ¬ o.Unknown registry ∧ ¬ o.Empty ∧ o.InRange registry
  delivers : response.status = 200 → ∃ o run, Asks limits server r o
    ∧ Run.run registry o.text o.config none = .ok run ∧ response.Delivers run
  failure_iff : response.status = 500
    ↔ r.TooDeep limits ∨ ∃ o, Asks limits server r o ∧ ¬ o.Unknown registry ∧ ¬ o.Empty ∧ ¬ o.InRange registry
  failure_body : response.status = 500 → response.body = none

theorem Answered.goesBy {limits : Json.Limits} {server : Config} {registry : Registry} {r : Request}
    {response : Response} (h : Answered limits server registry r response) :
    GoesBy limits server registry r response := by
  have hnone : ∀ status kind, ¬ Response.Reports { status := 500, body := none } status kind := by
    rintro status kind ⟨-, hbody⟩
    cases hbody
  cases h with
  | tooDeep hd hn => constructor <;> simp [hd, hn, hnone]
  | input hd hn f hf =>
    constructor <;>
      simp [hd, hn, reports_faultResponse_iff hf, status_faultResponse hf, statusOf]
  | configuration hd o ho hu f hf =>
    constructor <;>
      simp [hd, ho, hu, reports_faultResponse_iff hf, status_faultResponse hf, statusOf]
  | noInstructions hd o ho hu he f hf =>
    constructor <;>
      simp [hd, ho, hu, he, reports_faultResponse_iff hf, status_faultResponse hf, statusOf]
  | tooLarge hd o ho hu he hr => constructor <;> simp [hd, ho, hu, he, hr, hnone]
  | summary hd o ho hu he hr run hrun response hresponse =>
    have hdelivers := hresponse
    obtain ⟨summary, -, rfl⟩ := hresponse
    constructor <;> simp [hd, ho, hu, he, hr, hrun, hdelivers, Response.Reports]

/-- **What a posted listing is answered with**: whatever was registered before, the request without an
order, the catalog that is not registered and the listing without instructions are told apart, and every
other order brings the summary of its run.  The server fails on a body that is nested too deep, which
takes as many brackets, and on nothing else as long as a catalog has at most `2 ^ 900` rules.  This goes for
all limits of the decoder, and for all requests but those in whose strings a half of a character stands
alone. -/
theorem respond_submitted (limits : Json.Limits) (server : Config) (calls : List Registry.Call)
    {r : Request} (hs : r.Submits) (hw : r.Whole limits) :
    let registry := Registry.after calls
    GoesBy limits server registry r (respond limits server registry r)
    ∧ (r.TooDeep limits → ∃ cs, Text.decodeDetected? r.body = some cs
      ∧ limits.depth < Json.openings cs)
    ∧ (∀ o c, Asks limits server r o → Run.Chosen registry o.config none c →
      c.rules.length ≤ 2 ^ 900 → o.InRange registry) := by
  intro registry
  refine ⟨(respond_answered server calls hs hw).goesBy, Request.TooDeep.lt_openings, ?_⟩
  intro o c ho hc hrules
  exact ho.inRange hs.length_le hc hrules

/-! ## Arrays in arrays -/

/-- brackets in each other -/
def brackets (depth : Nat) : List Char := List.replicate depth '[' ++ List.replicate depth ']'

/-- a request with as many arrays in each other as its body -/
def Request.nested (depth : Nat) : Request :=
  posted "application/json" (Text.encode (String.ofList (brackets depth)))

theorem openings_brackets (depth : Nat) : Json.openings (brackets depth) = depth := by
  unfold Json.openings brackets
  rw [List.countP_append, List.countP_replicate, List.countP_replicate]
  rfl

theorem length_encode_brackets (depth : Nat) :
    (Text.encode (String.ofList (brackets depth))).length = depth + depth := by
  have hbyte : ∀ c ∈ brackets depth, (String.utf8EncodeChar c).length = 1 := by
    intro c hc
    rcases List.mem_append.mp hc with h | h
    · rw [List.eq_of_mem_replicate h]
      rfl
    · rw [List.eq_of_mem_replicate h]
      rfl
  rw [Text.encode_eq, String.toList_ofList, List.length_flatMap, List.map_congr_left hbyte]
  simp [brackets]

theorem detect_brackets {depth : Nat} (h : 4 ≤ depth) :
    Text.Encoding.detect (Text.encode (String.ofList (brackets depth)))
      = (.utf8, Text.encode (String.ofList (brackets depth))) := by
  obtain ⟨k, rfl⟩ := Nat.exists_eq_add_of_le' h
  rw [Text.encode_eq, String.toList_ofList]
  rfl

theorem decodeDetected?_brackets {depth : Nat} (h : 4 ≤ depth) :
    Text.decodeDetected? (Text.encode (String.ofList (brackets depth))) = some (brackets depth) := by
  rw [Text.decodeDetected?_encode (detect_brackets h), String.toList_ofList]

/-- the limit is met just beyond it -/
theorem tooDeep_nested_iff {limits : Json.Limits} {depth : Nat} (h : 4 ≤ depth) :
    (Request.nested depth).TooDeep limits ↔ limits.depth < depth := by
  have hdecode : Text.decodeDetected? (Request.nested depth).body = some (brackets depth) :=
    decodeDetected?_brackets h
  constructor
  · intro hd
    obtain ⟨cs, hcs, hlt⟩ := hd.lt_openings
    rw [hdecode] at hcs
    rwa [← Option.some.inj hcs, openings_brackets] at hlt
  · intro hlt
    constructor
    · show (Request.posted "application/json" []).isJson = true
      decide +kernel
    · obtain ⟨k, hk⟩ := Nat.exists_eq_add_of_le hlt
      unfold Request.json
      rw [hdecode, brackets, hk, ← List.replicate_append_replicate, List.append_assoc]
      dsimp only
      rw [Json.readWithin_brackets]
      rfl

theorem submits_nested {depth : Nat} (h : depth + depth ≤ Request.greatestSize) :
    (Request.nested depth).Submits := by
  apply Request.submits_posted
  rw [length_encode_brackets]
  exact h

theorem Request.TooDeep.whole {limits : Json.Limits} {r : Request} (h : r.TooDeep limits) :
    r.Whole limits := by
  intro _ fields hr
  rw [h.2] at hr
  cases hr

/-- the server fails on arrays in each other, instead of asking for a listing -/
theorem respond_submitted_nested :
    let limits : Json.Limits := { depth := 1000, digits := some 4300 }
    (Request.nested 5000).Submits ∧ (Request.nested 5000).TooDeep limits
    ∧ (Request.nested 5000).Whole limits
    ∧ (respond limits {} (Registry.after []) (Request.nested 5000)).status = 500
    ∧ ¬ (respond limits {} (Registry.after []) (Request.nested 5000)).Reports 400 .input := by
  intro limits
  have hs : (Request.nested 5000).Submits := submits_nested (by decide)
  have hd : (Request.nested 5000).TooDeep limits := (tooDeep_nested_iff (by decide)).mpr (by decide)
  have hanswer := (respond_submitted limits {} [] hs hd.whole).1
  refine ⟨hs, hd, hd.whole, hanswer.failure_iff.mpr (Or.inl hd), ?_⟩
  intro hreport
  exact (hanswer.input_iff.mp hreport).1 hd

end MacroFusion.Web
