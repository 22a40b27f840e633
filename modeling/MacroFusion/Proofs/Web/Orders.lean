import MacroFusion.Proofs.Json.Extent
import MacroFusion.Web.Server

/-!
# Orders: what a posted listing asks for

A listing is posted as the text of a field in a JSON object, whose other fields are the options, or as a
plain text with options in the query.  Two options have to be texts if they are there; one that is empty
counts as left out.  What the options leave open comes from the configuration of the server, all but the
limit of examples, which follows from `verbose`.

A JSON string can hold halves of characters that stand alone, and a text here cannot.  Where the listing or
one of the two options is such a string (`Json.cleft`), nothing is said of the order: the statements ask for
requests that are `Whole`.

* `Request.Submits`, `Request.Brings`   a request that posts a listing, and what it brings;
* `Request.Whole`            no string that counts has a half of a character standing alone in it;
* `Request.posted`           the plain way to post one;
* `Proper`, `effective`      options that can be used, and the configuration they make;
* `Asks`                     the order of a request;
* `readOrder_cases`          a request has one order, or none and then a fault of its input, or is nested
                             too deep;
* `Asks.length_le`           the listing is no longer than the body;
* `Request.TooDeep.lt_openings`   a body that is nested too deep has as many opening brackets;
* `respond_of_order`, `respond_of_fault`   the answer goes by the order.
-/

namespace MacroFusion.Web

/-! ## Requests -/

namespace Request

/-- a listing is posted, in a body that is not too large to be read -/
structure Submits (r : Request) : Prop where
  path_eq : r.path = "/api/analyze".toList
  method_eq : String.ofList (r.method.toList.map Char.toUpper) = "POST"
  length_le : r.body.length ≤ greatestSize

/-- the listing that a request brings, and the options beside it -/
inductive Brings (limits : Json.Limits) (r : Request) : String → List (String × Json) → Prop
  | object {text : String} {fields : List (String × Json)} (hj : r.isJson = true)
    (hr : r.json limits = .ok (.object fields))
    (ht : fields.lookup "disassembly" = some (.string text)) : Brings limits r text fields
  | plain (hj : r.isJson = false) :
    Brings limits r r.text (r.options.map fun (name, value) => (name, .string value))

/-- the body is declared to be JSON and nested deeper than the reader goes -/
def TooDeep (limits : Json.Limits) (r : Request) : Prop :=
  r.isJson = true ∧ r.json limits = .error .tooDeep

/-- the fields of a JSON body that count as texts -/
def textKeys : List String := ["disassembly", "function", "catalog"]

/-- where the body is JSON, no half of a character stands alone in a string that counts -/
def Whole (limits : Json.Limits) (r : Request) : Prop :=
  r.isJson = true → ∀ fields, r.json limits = .ok (.object fields) →
    ∀ key ∈ textKeys, ∀ s, fields.lookup key ≠ some (.cleft s)

/-- a listing that is posted under a media type, without options in the query -/
def posted (mediaType : String) (body : List UInt8) : Request :=
  { target := "/api/analyze", contentType := some mediaType, body }

theorem submits_posted {mediaType : String} {body : List UInt8} (h : body.length ≤ greatestSize) :
    (posted mediaType body).Submits where
  path_eq := by
    show path { target := "/api/analyze" } = _
    decide +kernel
  method_eq := by
    show String.ofList ("POST".toList.map Char.toUpper) = _
    decide +kernel
  length_le := h

/-- a body that is JSON was decoded and read, and it is whole where it has strings in its fields -/
theorem of_json_eq_ok {limits : Json.Limits} {r : Request} {fields : List (String × Json)}
    {key text : String} (h : r.json limits = .ok (.object fields))
    (ht : fields.lookup key = some (.string text)) :
    ∃ cs, Text.decodeDetected? r.body = some cs ∧ Json.readWithin limits cs = .ok (.object fields) := by
  unfold json at h
  split at h
  · rename_i cs hcs
    obtain ⟨j, hj, he⟩ := Json.map_eq_ok h
    split at he
    · rw [he] at hj
      exact ⟨cs, hcs, hj⟩
    · exact absurd ht (Json.lookup_cleave_ne_string he key text)
  · cases h

theorem TooDeep.lt_openings {limits : Json.Limits} {r : Request} (h : r.TooDeep limits) :
    ∃ cs, Text.decodeDetected? r.body = some cs ∧ limits.depth < Json.openings cs := by
  have hd := h.2
  unfold json at hd
  split at hd
  · rename_i cs hcs
    exact ⟨cs, hcs, Json.lt_openings_of_tooDeep (Json.of_map_eq_error hd)⟩
  · cases hd

theorem Brings.length_le {limits : Json.Limits} {r : Request} {text : String}
    {options : List (String × Json)} (h : r.Brings limits text options) :
    text.toList.length ≤ r.body.length := by
  cases h with
  | object hj hr ht =>
    obtain ⟨cs, hcs, hread⟩ := of_json_eq_ok hr ht
    rw [String.length_toList]
    exact Nat.le_trans (Json.length_field_le hread ht) (Text.length_decodeDetected?_le hcs)
  | plain hj =>
    unfold Request.text
    rw [String.toList_ofList]
    exact Text.length_decode_le r.body

theorem Brings.unique {limits : Json.Limits} {r : Request} {text other : String}
    {options others : List (String × Json)} (h : r.Brings limits text options)
    (ho : r.Brings limits other others) : text = other ∧ options = others := by
  cases h with
  | object hj hr ht =>
    cases ho with
    | object hj' hr' ht' =>
      obtain rfl := Json.object.inj (Except.ok.inj (hr.symm.trans hr'))
      exact ⟨Json.string.inj (Option.some.inj (ht.symm.trans ht')), rfl⟩
    | plain hj' => exact absurd (hj'.symm.trans hj) Bool.false_ne_true
  | plain hj =>
    cases ho with
    | object hj' hr' ht' => exact absurd (hj.symm.trans hj') Bool.false_ne_true
    | plain hj' => exact ⟨rfl, rfl⟩

theorem Brings.not_tooDeep {limits : Json.Limits} {r : Request} {text : String}
    {options : List (String × Json)} (h : r.Brings limits text options) : ¬ r.TooDeep limits := by
  rintro ⟨hjson, hdeep⟩
  cases h with
  | object hj hr ht =>
    rw [hdeep] at hr
    cases hr
  | plain hj => exact absurd (hj.symm.trans hjson) Bool.false_ne_true

end Request

/-! ## Options -/

/-- an option that is left out, null or a text -/
def OptionalText (options : List (String × Json)) (key : String) : Prop :=
  options.lookup key = none ∨ options.lookup key = some .null
    ∨ ∃ s, options.lookup key = some (.string s)

/-- the options that have to be texts are, if they are there -/
def Proper (options : List (String × Json)) : Prop :=
  OptionalText options "function" ∧ OptionalText options "catalog"

/-- the text of an option, unless it is empty -/
def given? (options : List (String × Json)) (key : String) : Option String :=
  match options.lookup key with
  | some (.string s) => if s = "" then none else some s
  | _ => none

/-- the configuration of the server with what the options set -/
def effective (server : Config) (options : List (String × Json)) : Config :=
  { filter := (given? options "function").or server.filter
    verbose := verboseOption server options
    catalog := (given? options "catalog").getD server.catalog
    missExampleLimit := server.missExampleLimit
    topFunctions := server.topFunctions
    workers := server.workers
    workers_pos := server.workers_pos }

theorem textOption_cases {options : List (String × Json)} {key : String}
    (h : ∀ s, options.lookup key ≠ some (.cleft s)) :
    (OptionalText options key
      ∧ ∃ s, textOption options key = .ok s ∧ nonEmpty s = given? options key)
    ∨ (¬ OptionalText options key ∧ textOption options key = .error (.optionNotText key)) := by
  unfold OptionalText textOption given?
  cases hl : options.lookup key with
  | none => exact Or.inl ⟨Or.inl rfl, none, rfl, rfl⟩
  | some j =>
    cases j with
    | cleft s => exact absurd hl (h s)
    | null => exact Or.inl ⟨Or.inr (Or.inl rfl), none, rfl, rfl⟩
    | string s =>
      refine Or.inl ⟨Or.inr (Or.inr ⟨s, rfl⟩), some s, rfl, ?_⟩
      simp only [nonEmpty, String.isEmpty_iff]
    | _ => exact Or.inr ⟨by simp, rfl⟩

/-- the options that count as texts are whole -/
def Mended (options : List (String × Json)) : Prop :=
  ∀ key ∈ ["function", "catalog"], ∀ s, options.lookup key ≠ some (.cleft s)

theorem OptionalText.ne_cleft {options : List (String × Json)} {key : String}
    (h : OptionalText options key) (s : String) : options.lookup key ≠ some (.cleft s) := by
  rcases h with h | h | ⟨t, h⟩
  all_goals
    rw [h]
    simp

theorem Proper.mended {options : List (String × Json)} (h : Proper options) : Mended options := by
  intro key hk s
  simp only [List.mem_cons, List.not_mem_nil, or_false] at hk
  rcases hk with rfl | rfl
  · exact h.1.ne_cleft s
  · exact h.2.ne_cleft s

theorem orderOf_cases (server : Config) (text : String) {options : List (String × Json)}
    (h : Mended options) :
    (Proper options ∧ orderOf server text options = .ok ⟨text, effective server options⟩)
    ∨ (¬ Proper options ∧ ∃ key, orderOf server text options = .error (.optionNotText key)) := by
  unfold orderOf effective
  rcases textOption_cases (h "function" (by simp)) with ⟨hf, function, hfun, hgiven⟩ | ⟨hf, hfun⟩
  · rcases textOption_cases (h "catalog" (by simp)) with ⟨hc, catalog, hcat, hgivenCat⟩ | ⟨hc, hcat⟩
    · rw [hfun, hcat, ← hgiven, ← hgivenCat]
      exact Or.inl ⟨⟨hf, hc⟩, rfl⟩
    · rw [hfun, hcat]
      exact Or.inr ⟨fun h => hc h.2, "catalog", rfl⟩
  · rw [hfun]
    exact Or.inr ⟨fun h => hf h.1, "function", rfl⟩

theorem Request.Brings.mended {limits : Json.Limits} {r : Request} {text : String}
    {options : List (String × Json)} (h : r.Brings limits text options) (hw : r.Whole limits) :
    Mended options := by
  cases h with
  | object hj hr ht => exact fun key hk => hw hj _ hr key (List.mem_cons_of_mem _ hk)
  | plain hj =>
    intro key _ s hl
    obtain ⟨option, -, he⟩ := List.mem_map.mp (Dictionary.mem_of_lookup hl)
    cases he

/-! ## Orders -/

/-- the listing that a request brings is to be analyzed as its options and the server have it -/
def Asks (limits : Json.Limits) (server : Config) (r : Request) (o : Order) : Prop :=
  ∃ options, r.Brings limits o.text options ∧ Proper options ∧ o.config = effective server options

section
variable {limits : Json.Limits} {server : Config} {r : Request} {text : String}
  {options : List (String × Json)}

theorem Asks.length_le {o : Order} (h : Asks limits server r o) :
    o.text.toList.length ≤ r.body.length := by
  obtain ⟨options, hb, -, -⟩ := h
  exact hb.length_le

theorem Asks.not_tooDeep {o : Order} (h : Asks limits server r o) : ¬ r.TooDeep limits := by
  obtain ⟨options, hb, -, -⟩ := h
  exact hb.not_tooDeep

theorem asks_iff_of_brings (h : r.Brings limits text options) (hp : Proper options) (o : Order) :
    Asks limits server r o ↔ o = ⟨text, effective server options⟩ := by
  constructor
  · rintro ⟨others, ho, -, hc⟩
    obtain ⟨ht, rfl⟩ := h.unique ho
    cases o with
    | mk t c => rw [ht, ← hc]
  · rintro rfl
    exact ⟨options, h, hp, rfl⟩

theorem not_asks_of_brings (h : r.Brings limits text options) (hp : ¬ Proper options) (o : Order) :
    ¬ Asks limits server r o := by
  rintro ⟨others, ho, hp', -⟩
  obtain ⟨-, rfl⟩ := h.unique ho
  exact hp hp'

/-- a request that brings a listing is read by its options -/
theorem readOrder_of_brings (h : r.Brings limits text options) :
    readOrder limits server r = orderOf server text options := by
  cases h with
  | object hj hr ht =>
    unfold readOrder
    rw [if_pos hj, hr]
    dsimp only
    rw [ht]
  | plain hj =>
    unfold readOrder
    rw [if_neg (by rw [hj]; exact Bool.false_ne_true)]

theorem readOrder_of_tooDeep (h : r.TooDeep limits) :
    readOrder limits server r = .error .nestedTooDeep := by
  unfold readOrder
  rw [if_pos h.1, h.2]

/-- a request that brings no listing has no text where one has to be -/
theorem readOrder_of_nothing (hw : r.Whole limits) (hd : ¬ r.TooDeep limits)
    (h : ∀ text options, ¬ r.Brings limits text options) :
    readOrder limits server r = .error .missingDisassembly := by
  have hj : r.isJson = true := by
    cases hj : r.isJson with
    | true => rfl
    | false => exact absurd (.plain hj) (h _ _)
  unfold readOrder
  rw [if_pos hj]
  split
  · rename_i hdeep
    exact absurd ⟨hj, hdeep⟩ hd
  · rename_i fields hr
    split
    · rename_i text ht
      exact absurd (.object hj hr ht) (h _ _)
    · rename_i text ht
      exact absurd ht (hw hj fields hr "disassembly" List.mem_cons_self text)
    · rfl
  · rfl

end

/-- **Reading a request.** -/
theorem readOrder_cases {limits : Json.Limits} (server : Config) {r : Request} (hw : r.Whole limits) :
    (r.TooDeep limits ∧ (∀ o, ¬ Asks limits server r o)
      ∧ readOrder limits server r = .error .nestedTooDeep)
    ∨ (¬ r.TooDeep limits ∧ (∀ o, ¬ Asks limits server r o)
      ∧ ∃ f, readOrder limits server r = .error f ∧ f.kind? = some .input)
    ∨ (¬ r.TooDeep limits
      ∧ ∃ o, (∀ o', Asks limits server r o' ↔ o' = o) ∧ readOrder limits server r = .ok o) := by
  by_cases hd : r.TooDeep limits
  · exact Or.inl ⟨hd, fun o ho => ho.not_tooDeep hd, readOrder_of_tooDeep hd⟩
  by_cases hb : ∃ text options, r.Brings limits text options
  · obtain ⟨text, options, hb⟩ := hb
    rw [readOrder_of_brings hb]
    rcases orderOf_cases server text (hb.mended hw) with ⟨hp, ho⟩ | ⟨hp, key, ho⟩
    · exact Or.inr (Or.inr ⟨hd, _, asks_iff_of_brings hb hp, ho⟩)
    · exact Or.inr (Or.inl ⟨hd, not_asks_of_brings hb hp, _, ho, rfl⟩)
  · refine Or.inr (Or.inl ⟨hd, ?_, _, readOrder_of_nothing hw hd ?_, rfl⟩)
    · rintro o ⟨options, ho, -, -⟩
      exact hb ⟨_, _, ho⟩
    · intro text options ho
      exact hb ⟨_, _, ho⟩

/-! ## Answers -/

section
variable {limits : Json.Limits} {server : Config} (registry : Registry) {r : Request} (hs : r.Submits)
include hs

theorem respond_eq_analyze :
    respond limits server registry r = analyze limits server registry r := by
  have hroute : Route.ofPath? "/api/analyze".toList = some .analyze := by decide +kernel
  unfold respond
  rw [hs.path_eq, hs.method_eq, hroute]
  rfl

theorem respond_of_fault {f : Fault} (h : readOrder limits server r = .error f) :
    respond limits server registry r = faultResponse f := by
  rw [respond_eq_analyze registry hs]
  unfold analyze
  rw [if_neg (Nat.not_lt.mpr hs.length_le), h]

theorem respond_of_order {o : Order} (h : readOrder limits server r = .ok o) :
    (∀ f, Run.run registry o.text o.config none = .error f →
      respond limits server registry r = faultResponse f)
    ∧ ∀ run, Run.run registry o.text o.config none = .ok run →
      respond limits server registry r = runResponse run := by
  rw [respond_eq_analyze registry hs]
  unfold analyze
  rw [if_neg (Nat.not_lt.mpr hs.length_le), h]
  constructor
  · intro f hf
    dsimp only
    rw [hf]
  · intro run hrun
    dsimp only
    rw [hrun]

end

end MacroFusion.Web
