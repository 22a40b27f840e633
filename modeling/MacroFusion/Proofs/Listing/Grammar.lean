import MacroFusion.Proofs.Listing.Forms
import Mathlib.Logic.ExistsUnique

/-!
# The grammar of instruction lines

An instruction is read from a line on one line of text just if the line has a layout.  A line may have
two layouts: what looks like machine code may also be the mnemonic.  The reading with machine code is
the CHOSEN one where there is such a reading, and with that choice the layout is unique.

* `Code.text_append_inj`, `Operation.text_inj`   the parts that are not runs of one class of characters
                          are cut in one way only;
* `ColonLine.eq_of_text`, `BareLine.eq_of_text`   neither form has two layouts that both have code, or
                          both have none;
* `fields?_chosen`        the chosen layout is the one that is read;
* `instruction?_grammar`  all of it together.
-/

namespace MacroFusion.Line

open Text

/-- an instruction line in one of the two forms -/
inductive Layout where
  | colon (l : ColonLine)
  | bare (l : BareLine)

namespace Layout

def text : Layout → List Char
  | colon l => l.text
  | bare l => l.text

def address : Layout → HexRun
  | colon l => l.address
  | bare l => l.address

def operation : Layout → Operation
  | colon l => l.operation
  | bare l => l.operation

/-- whether there is machine code -/
def coded : Layout → Bool
  | colon l => l.code.isSome
  | bare _ => false

/-- machine code is taken for what it is, if it can be -/
def Chosen (l : Layout) : Prop := l.coded = true ∨ ∀ l' : Layout, l'.text = l.text → l'.coded = false

/-- the instruction that a layout stands for -/
def instruction (l : Layout) : Instruction :=
  { address := String.ofList (l.address.digits.map Char.toLower)
    mnemonic := String.ofList (upper l.operation.mnemonic.text)
    operands := String.ofList (trim l.operation.rest)
    raw := String.ofList (trim l.text) }

end Layout

/-! ## One layout -/

theorem Operation.text_inj {op₁ op₂ : Operation} (h : op₁.text = op₂.text) : op₁ = op₂ := by
  obtain ⟨hm, hrest⟩ := run_unique op₁.mnemonic.word_text op₂.mnemonic.word_text op₁.ends op₂.ends h
  obtain ⟨hi, ho⟩ := List.cons.inj hm
  exact Operation.ext (Mnemonic.ext hi ho) hrest

theorem HexByte.text_inj {b₁ b₂ : HexByte} (h : b₁.text = b₂.text) : b₁ = b₂ := by
  obtain ⟨hh, hl⟩ := List.cons.inj h
  exact HexByte.ext hh (List.cons.inj hl).1

theorem HexByte.text_append_inj {b₁ b₂ : HexByte} {rest₁ rest₂ : List Char}
    (h : b₁.text ++ rest₁ = b₂.text ++ rest₂) : b₁ = b₂ ∧ rest₁ = rest₂ := by
  obtain ⟨ht, hr⟩ := List.append_inj h rfl
  exact ⟨HexByte.text_inj ht, hr⟩

/-- a word has a digit where bytes have a space -/
theorem Code.word_ne_bytes {digits rest₁ rest₂ : List Char} {b : HexByte} (hlen : digits.length = 8)
    (hex : ∀ c ∈ digits, isHex c = true) : digits ++ rest₁ ≠ b.text ++ ' ' :: rest₂ := by
  intro he
  have hw : dropCodeWord? (digits ++ rest₁) = some rest₁ := by
    rw [dropCodeWord?, ← hlen, dropHex?_run hex]
  rw [he, dropCodeWord?_byte] at hw
  cases hw

theorem Code.text_append_inj {code₁ code₂ : Code} {rest₁ rest₂ : List Char}
    (h : code₁.text ++ rest₁ = code₂.text ++ rest₂) : code₁ = code₂ ∧ rest₁ = rest₂ := by
  cases code₁ with
  | word digits₁ len₁ hex₁ =>
    cases code₂ with
    | word digits₂ len₂ hex₂ =>
      simp only [text, first, further, List.append_nil] at h
      obtain ⟨hd, hr⟩ := List.append_inj h (len₁.trans len₂.symm)
      subst hd
      exact ⟨rfl, hr⟩
    | bytes b₀ b₁ b₂ b₃ =>
      rw [text_bytes_append, text, first, further, List.append_nil] at h
      exact absurd h (word_ne_bytes len₁ hex₁)
  | bytes a₀ a₁ a₂ a₃ =>
    cases code₂ with
    | word digits len hex =>
      rw [text_bytes_append, text, first, further, List.append_nil] at h
      exact absurd h.symm (word_ne_bytes len hex)
    | bytes b₀ b₁ b₂ b₃ =>
      rw [text_bytes_append, text_bytes_append] at h
      obtain ⟨e₀, h⟩ := HexByte.text_append_inj h
      obtain ⟨e₁, h⟩ := HexByte.text_append_inj (List.cons.inj h).2
      obtain ⟨e₂, h⟩ := HexByte.text_append_inj (List.cons.inj h).2
      obtain ⟨e₃, h⟩ := HexByte.text_append_inj (List.cons.inj h).2
      rw [e₀, e₁, e₂, e₃]
      exact ⟨rfl, h⟩

theorem Gap.append_inj {gap₁ gap₂ : Gap} {rest₁ rest₂ : List Char} (h₁ : Stops isBlank rest₁)
    (h₂ : Stops isBlank rest₂) (h : gap₁.chars ++ rest₁ = gap₂.chars ++ rest₂) :
    gap₁ = gap₂ ∧ rest₁ = rest₂ := by
  obtain ⟨hg, hr⟩ := run_unique gap₁.blank gap₂.blank h₁ h₂ h
  exact ⟨Gap.ext hg, hr⟩

theorem Operation.behind_inj {op₁ op₂ : Operation} {code₁ code₂ : Option (Code × Gap)}
    (hsome : code₁.isSome = code₂.isSome) (h : op₁.behind code₁ = op₂.behind code₂) :
    code₁ = code₂ ∧ op₁ = op₂ := by
  cases code₁ with
  | none =>
    cases code₂ with
    | none => exact ⟨rfl, Operation.text_inj h⟩
    | some _ => cases hsome
  | some c₁ =>
    cases code₂ with
    | none => cases hsome
    | some c₂ =>
      obtain ⟨hc, h⟩ := Code.text_append_inj h
      obtain ⟨hg, h⟩ := Gap.append_inj op₁.stops_blank op₂.stops_blank h
      exact ⟨congrArg some (Prod.ext hc hg), Operation.text_inj h⟩

theorem sign_append_inj {signed₁ signed₂ : Bool} {a₁ a₂ : HexRun} {rest₁ rest₂ : List Char}
    (h : sign signed₁ ++ (a₁.digits ++ ':' :: rest₁) = sign signed₂ ++ (a₂.digits ++ ':' :: rest₂)) :
    signed₁ = signed₂ ∧ a₁ = a₂ ∧ rest₁ = rest₂ := by
  have hsigned : signed₁ = signed₂ := by
    cases signed₁ with
    | true =>
      cases signed₂ with
      | true => rfl
      | false => exact absurd h.symm (a₂.ne_signed _ _)
    | false =>
      cases signed₂ with
      | true => exact absurd h (a₁.ne_signed _ _)
      | false => rfl
  subst hsigned
  have hcolon : ∀ rest, Stops isHex (':' :: rest) := fun rest => stops_cons (by decide) rest
  obtain ⟨hd, hr⟩ := run_unique a₁.hex a₂.hex (hcolon _) (hcolon _) (List.append_cancel_left h)
  exact ⟨rfl, HexRun.ext hd, (List.cons.inj hr).2⟩

theorem ColonLine.eq_of_text {l₁ l₂ : ColonLine} (hcode : l₁.code.isSome = l₂.code.isSome)
    (h : l₁.text = l₂.text) : l₁ = l₂ := by
  obtain ⟨hindent, h⟩ := run_unique l₁.blank l₂.blank (stops_blank_sign _ _ _)
    (stops_blank_sign _ _ _) h
  obtain ⟨hsigned, haddress, h⟩ := sign_append_inj h
  obtain ⟨hgap, h⟩ := Gap.append_inj (l₁.operation.stops_blank_behind _)
    (l₂.operation.stops_blank_behind _) h
  obtain ⟨hc, ho⟩ := Operation.behind_inj hcode h
  exact ColonLine.ext hindent hsigned haddress hgap hc ho

theorem BareLine.eq_of_text {l₁ l₂ : BareLine} (h : l₁.text = l₂.text) : l₁ = l₂ := by
  obtain ⟨hd, h⟩ := run_unique l₁.address.hex l₂.address.hex (l₁.gap.stops_hex _)
    (l₂.gap.stops_hex _) h
  obtain ⟨hgap, h⟩ := Gap.append_inj l₁.operation.stops_blank l₂.operation.stops_blank h
  exact BareLine.ext (HexRun.ext hd) hgap (Operation.text_inj h)

/-- the two forms have no text in common -/
theorem ColonLine.text_ne (l₁ : ColonLine) (l₂ : BareLine) : l₁.text ≠ l₂.text := by
  intro he
  have hform := Form.apparent_colonLine l₁
  rw [he, Form.apparent_bareLine l₂] at hform
  cases hform

namespace Layout

theorem coded_eq {l₁ l₂ : Layout} (h : l₁.text = l₂.text) (h₁ : l₁.Chosen) (h₂ : l₂.Chosen) :
    l₁.coded = l₂.coded := by
  rcases h₁ with h₁ | h₁
  · rcases h₂ with h₂ | h₂
    · rw [h₁, h₂]
    · rw [h₂ l₁ h, h₂ l₂ rfl]
  · rw [h₁ l₁ rfl, h₁ l₂ h.symm]

theorem eq_of_chosen {l₁ l₂ : Layout} (h : l₁.text = l₂.text) (h₁ : l₁.Chosen) (h₂ : l₂.Chosen) :
    l₁ = l₂ := by
  have hcode := coded_eq h h₁ h₂
  cases l₁ with
  | colon c₁ =>
    cases l₂ with
    | colon c₂ => rw [ColonLine.eq_of_text hcode h]
    | bare b₂ => exact absurd h (c₁.text_ne b₂)
  | bare b₁ =>
    cases l₂ with
    | colon c₂ => exact absurd h.symm (c₂.text_ne b₁)
    | bare b₂ => rw [BareLine.eq_of_text h]

theorem exists_chosen (l : Layout) : ∃ l' : Layout, l'.text = l.text ∧ l'.Chosen := by
  by_cases h : ∃ l' : Layout, l'.text = l.text ∧ l'.coded = true
  · obtain ⟨l', ht, hc⟩ := h
    exact ⟨l', ht, Or.inl hc⟩
  · refine ⟨l, rfl, Or.inr fun l' ht => ?_⟩
    cases hc : l'.coded with
    | false => rfl
    | true => exact absurd ⟨l', ht, hc⟩ h

end Layout

/-! ## What is read -/

theorem ColonLine.mem_text {l : ColonLine} {c : Char} (h : c ∈ l.operation.text) : c ∈ l.text :=
  List.mem_append_right _ (List.mem_append_right _ (List.mem_append_right _
    (List.mem_cons_of_mem _ (List.mem_append_right _ (Operation.mem_behind h l.code)))))

/-- with machine code in front, the operation is read behind it -/
theorem colonFields?_of_code {l : ColonLine} {code : Code} {gap : Gap}
    (hcode : l.code = some (code, gap)) (hn : '\n' ∉ l.text) :
    colonFields? l.text = some (l.operation.fields l.address) := by
  have hop : '\n' ∉ l.operation.text := fun h => hn (ColonLine.mem_text h)
  rw [colonFields?_text, hcode, dropCode?_behind, Option.bind_some,
    operation?_text l.address l.operation hop, Option.some_or]

/-- where no layout has machine code, the reading that drops it fails -/
theorem dropCode?_of_chosen {l : ColonLine} (hcode : l.code = none)
    (h : ∀ l' : Layout, l'.text = l.text → l'.coded = false) :
    (dropCode? l.operation.text).bind (operation? l.address.digits) = none := by
  rw [Option.eq_none_iff_forall_ne_some]
  intro f hf
  obtain ⟨rest, hd, ho⟩ := Option.bind_eq_some_iff.mp hf
  obtain ⟨code, gap, he⟩ := exists_code hd
  obtain ⟨op, rfl⟩ := exists_operation ho
  have htext : (Layout.colon { l with code := some (code, gap), operation := op }).text = l.text := by
    show l.indent ++ _ = l.indent ++ _
    rw [hcode]
    show _ = l.indent ++ (sign l.signed ++ (l.address.digits ++ ':' :: (l.gap.chars
      ++ l.operation.text)))
    rw [he]
    rfl
  cases h _ htext

theorem colonFields?_of_no_code {l : ColonLine} (hcode : l.code = none)
    (h : ∀ l' : Layout, l'.text = l.text → l'.coded = false) (hn : '\n' ∉ l.text) :
    colonFields? l.text = some (l.operation.fields l.address) := by
  have hop : '\n' ∉ l.operation.text := fun h => hn (ColonLine.mem_text h)
  have hbehind : l.operation.behind l.code = l.operation.text := by
    rw [hcode]
    rfl
  rw [colonFields?_text, hbehind, dropCode?_of_chosen hcode h, Option.none_or,
    operation?_text l.address l.operation hop]

theorem bareFields?_of_line {l : BareLine} (hn : '\n' ∉ l.text) :
    bareFields? l.text = some (l.operation.fields l.address) := by
  have hop : '\n' ∉ l.operation.text := fun h =>
    hn (List.mem_append_right _ (List.mem_append_right _ h))
  rw [bareFields?_text, operation?_text l.address l.operation hop]

/-- **The chosen layout is the one that is read.** -/
theorem fields?_chosen {l : Layout} (hc : l.Chosen) (hn : '\n' ∉ l.text) :
    fields? l.text = some (l.operation.fields l.address) := by
  cases l with
  | colon l =>
    have hcolon : colonFields? l.text = some (l.operation.fields l.address) := by
      cases hcode : l.code with
      | some code => exact colonFields?_of_code hcode hn
      | none =>
        have hnone : (Layout.colon l).coded = false := by
          show l.code.isSome = false
          rw [hcode]
          rfl
        apply colonFields?_of_no_code hcode _ hn
        rcases hc with hc | hc
        · rw [hnone] at hc
          cases hc
        · exact hc
    show (colonFields? l.text).or _ = _
    rw [hcolon]
    rfl
  | bare l =>
    show fields? l.text = _
    rw [fields?_comm, bareFields?_of_line hn]
    rfl

theorem exists_layout {cs : List Char} {f : Fields} (h : fields? cs = some f) :
    ∃ l : Layout, l.text = cs := by
  rcases Option.or_eq_some_iff.mp h with h | ⟨_, h⟩
  · obtain ⟨l, hl⟩ := exists_colonLine h
    exact ⟨.colon l, hl⟩
  · obtain ⟨l, hl⟩ := exists_bareLine h
    exact ⟨.bare l, hl⟩

theorem instruction?_chosen {l : Layout} (hc : l.Chosen) (hn : '\n' ∉ l.text) :
    instruction? l.text = some l.instruction := by
  have htrim : trim (l.operation.rest.dropWhile isBlank) = trim l.operation.rest := by
    rw [trim, trimStart, dropWhile_of_stops (stops_dropWhile _ _)]
    rfl
  rw [instruction?_eq, fields?_chosen hc hn]
  show some (Fields.instruction _ l.text) = some l.instruction
  rw [Fields.instruction, Operation.fields, htrim]
  rfl

/-- **Instruction lines are just those of the grammar, and their parts are unique.**  A text without a
line feed is read as an instruction if and only if it has a layout; it then has just one chosen layout,
and the instruction is the one that this layout stands for. -/
theorem instruction?_grammar (cs : List Char) (hn : '\n' ∉ cs) :
    ((instruction? cs).isSome = true ↔ ∃ l : Layout, l.text = cs)
      ∧ ((∃ l : Layout, l.text = cs) → ∃! l : Layout, l.text = cs ∧ l.Chosen)
      ∧ ∀ l : Layout, l.text = cs → l.Chosen → instruction? cs = some l.instruction := by
  have hread : ∀ l : Layout, l.text = cs → l.Chosen → instruction? cs = some l.instruction := by
    intro l ht hc
    subst ht
    exact instruction?_chosen hc hn
  have hchosen : (∃ l : Layout, l.text = cs) → ∃ l : Layout, l.text = cs ∧ l.Chosen := by
    intro h
    obtain ⟨l, ht⟩ := h
    obtain ⟨l', ht', hc⟩ := l.exists_chosen
    exact ⟨l', ht'.trans ht, hc⟩
  refine ⟨⟨fun h => ?_, fun h => ?_⟩, fun h => ?_, hread⟩
  · rw [instruction?_eq, Option.isSome_map] at h
    obtain ⟨f, hf⟩ := Option.isSome_iff_exists.mp h
    exact exists_layout hf
  · obtain ⟨l, ht, hc⟩ := hchosen h
    rw [hread l ht hc]
    rfl
  · obtain ⟨l, ht, hc⟩ := hchosen h
    refine ⟨l, ⟨ht, hc⟩, fun l' h' => ?_⟩
    exact Layout.eq_of_chosen (h'.1.trans ht.symm) h'.2 hc

/-- The machine code `add00000` could be a mnemonic, and there is one chosen layout all the same. -/
theorem instruction?_grammar_twofold :
    '\n' ∉ "  0x400544:\tadd00000 \tadd\tx0, x1".toList
      ∧ (∃! l : Layout, l.text = "  0x400544:\tadd00000 \tadd\tx0, x1".toList ∧ l.Chosen)
      ∧ instruction? "  0x400544:\tadd00000 \tadd\tx0, x1".toList
        = some ⟨"400544", "ADD", "x0, x1", "0x400544:\tadd00000 \tadd\tx0, x1"⟩ := by
  have hn : '\n' ∉ "  0x400544:\tadd00000 \tadd\tx0, x1".toList := by decide
  have hi : instruction? "  0x400544:\tadd00000 \tadd\tx0, x1".toList
      = some ⟨"400544", "ADD", "x0, x1", "0x400544:\tadd00000 \tadd\tx0, x1"⟩ := by decide +kernel
  have h := instruction?_grammar _ hn
  exact ⟨hn, h.2.1 (h.1.mp (by rw [hi]; rfl)), hi⟩

end MacroFusion.Line
