import MacroFusion.Listing.Basic
import MacroFusion.Proofs.Listing.Headings

/-!
# Forms: the four forms of a line exclude each other

A line that is not noise has one of four FORMS: a header with a symbol, a header that is a label, an
instruction with a colon, and a bare instruction.  The readers try them one after the other, and it
never matters which comes first.

A glance at the line tells its form (`Form.apparent`): its first word ends at a colon, with nothing but
blanks behind it (`label`) or with more (`colon`), or it ends at a blank, with a letter behind the gap
(`bare`) or something else (`symbol`).

* `apparent_symbol`, `apparent_label`, `apparent_colonLine`, `apparent_bareLine`   what each reader
                          accepts has the form of that reader;
* `findSome?_read?`       so trying forms in any order comes to trying the one that the line has;
* `read_in_any_order`     and no line has two of them.
-/

namespace MacroFusion

open Text

namespace Line

/-- the forms of a line that is not noise -/
inductive Form where
  | symbol | label | colon | bare
  deriving DecidableEq, Repr

/-- the instruction that the parts of a line make up -/
def Fields.instruction (f : Fields) (cs : List Char) : Instruction :=
  { address := String.ofList (f.address.map Char.toLower)
    mnemonic := String.ofList (upper f.mnemonic)
    operands := String.ofList (trim f.operands)
    raw := String.ofList (trim cs) }

theorem instruction?_eq (cs : List Char) :
    instruction? cs = (fields? cs).map fun f => f.instruction cs := rfl

namespace Form

def all : List Form := [.symbol, .label, .colon, .bare]

/-- a line read in one form only -/
def read? (cs : List Char) : Form → Option Line
  | .symbol => (symbolName? cs).map fun name => .header (String.ofList name)
  | .label => (labelName? cs).map fun name => .header (String.ofList name)
  | .colon => (colonFields? cs).map fun f => .instruction (f.instruction cs)
  | .bare => (bareFields? cs).map fun f => .instruction (f.instruction cs)

/-- a line read by trying forms one after the other -/
def first (forms : List Form) (cs : List Char) : Line := (forms.findSome? (read? cs)).getD .noise

/-! ## The form at a glance -/

/-- neither blank nor a colon -/
def inWord (c : Char) : Bool := !isBlank c && c != ':'

/-- the one form that a line may have -/
def apparent (cs : List Char) : Form :=
  let rest := (cs.dropWhile isBlank).dropWhile inWord
  if rest.head? = some ':' then
    if rest.tail.all isBlank then .label else .colon
  else if (rest.dropWhile isBlank).head?.any Char.isAlpha then .bare
  else .symbol

theorem inWord_of_isHex {c : Char} (h : isHex c = true) : inWord c = true := by
  have hcolon : c ≠ ':' := by
    intro he
    rw [he] at h
    exact absurd h (by decide)
  simp [inWord, isBlank_of_isHex h, hcolon]

theorem inWord_of_mem_sign {signed : Bool} {c : Char} (h : c ∈ sign signed) : inWord c = true := by
  cases signed with
  | true => exact List.all_eq_true.mp (by decide : (sign true).all inWord = true) c h
  | false => cases h

theorem inWord_of_isBlank {c : Char} (h : isBlank c = true) : inWord c = false := by
  simp [inWord, h]

theorem stops_blank_of_inWord {word rest : List Char} (hne : word ≠ [])
    (hw : ∀ c ∈ word, inWord c = true) : Stops isBlank (word ++ rest) := by
  obtain ⟨c, cs, hc⟩ := List.exists_cons_of_ne_nil hne
  have h := hw c (by rw [hc]; simp)
  rw [hc]
  apply stops_cons
  simp only [inWord, Bool.and_eq_true, Bool.not_eq_true'] at h
  exact h.1

/-- a first word that ends at a colon -/
theorem apparent_of_colon {indent word after : List Char} (hi : ∀ c ∈ indent, isBlank c = true)
    (hne : word ≠ []) (hw : ∀ c ∈ word, inWord c = true) :
    apparent (indent ++ (word ++ ':' :: after)) = if after.all isBlank then .label else .colon := by
  have hcolon : Stops inWord (':' :: after) := stops_cons (by decide) _
  unfold apparent
  rw [dropWhile_run hi (stops_blank_of_inWord hne hw), dropWhile_run hw hcolon]
  rfl

/-- a first word that ends at a blank -/
theorem apparent_of_gap {word rest : List Char} {c : Char} (gap : Gap) (hne : word ≠ [])
    (hw : ∀ c ∈ word, inWord c = true) (hc : isBlank c = false) :
    apparent (word ++ (gap.chars ++ c :: rest)) = if c.isAlpha then .bare else .symbol := by
  obtain ⟨d, ds, hd⟩ := List.exists_cons_of_ne_nil gap.ne_nil
  have hb := gap.blank d (by rw [hd]; simp)
  have hgap : Stops inWord (gap.chars ++ c :: rest) := by
    rw [hd]
    exact stops_cons (inWord_of_isBlank hb) _
  have hhead : (gap.chars ++ c :: rest).head? ≠ some ':' := by
    rw [hd]
    intro he
    have hdc : d = ':' := Option.some.inj he
    rw [hdc] at hb
    exact absurd hb (by decide)
  unfold apparent
  rw [dropWhile_of_stops (stops_blank_of_inWord hne hw), dropWhile_run hw hgap]
  simp only [hhead, if_false, dropWhile_run gap.blank (stops_cons hc rest), List.head?_cons,
    Option.any_some]

/-! ## Each reader has its form -/

theorem apparent_symbol {cs name : List Char} (h : symbolName? cs = some name) :
    apparent cs = .symbol := by
  obtain ⟨s, hs, _⟩ := exists_symbolHeading h
  obtain ⟨blanks, hcs, _⟩ := exists_trimEnd_append cs
  have hw : ∀ d ∈ s.address.digits, inWord d = true :=
    fun d hd => inWord_of_isHex (s.address.hex d hd)
  have hparts : cs = s.address.digits ++ (s.gap.chars
      ++ s.bracket.opening :: (s.name ++ [s.bracket.closing, ':'] ++ blanks)) := by
    rw [hcs, ← hs]
    simp [SymbolHeading.text, SymbolHeading.enclosed]
  rw [hparts, apparent_of_gap s.gap s.address.ne_nil hw s.bracket.isBlank_opening]
  cases s.bracket <;> rfl

theorem apparent_label {cs name : List Char} (h : labelName? cs = some name) :
    apparent cs = .label := by
  obtain ⟨l, hl, _⟩ := exists_labelHeading h
  obtain ⟨blanks, hcs, hblank⟩ := exists_trimEnd_append cs
  have hparts : cs = l.name ++ ':' :: blanks := by
    rw [hcs, ← hl]
    simp [LabelHeading.text]
  have hform : apparent ([] ++ (l.name ++ ':' :: blanks)) = _ :=
    apparent_of_colon (by simp) l.ne_nil l.in_class
  rw [List.all_eq_true.mpr hblank, if_pos rfl] at hform
  rw [hparts]
  exact hform

theorem apparent_colonLine (l : ColonLine) : apparent l.text = .colon := by
  have hw : ∀ c ∈ sign l.signed ++ l.address.digits, inWord c = true := by
    intro c hc
    rcases List.mem_append.mp hc with hs | hd
    · exact inWord_of_mem_sign hs
    · exact inWord_of_isHex (l.address.hex c hd)
  have hne : sign l.signed ++ l.address.digits ≠ [] :=
    List.append_ne_nil_of_right_ne_nil _ l.address.ne_nil
  have hmore : (l.gap.chars ++ l.operation.behind l.code).all isBlank = false := by
    rw [List.all_eq_false]
    have hmem : l.operation.mnemonic.initial ∈ l.operation.text := List.mem_cons_self
    refine ⟨_, List.mem_append_right _ (Operation.mem_behind hmem l.code), ?_⟩
    rw [isBlank_of_isAlpha l.operation.mnemonic.letter]
    exact Bool.false_ne_true
  have h : apparent (l.indent ++ (sign l.signed ++ l.address.digits
      ++ ':' :: (l.gap.chars ++ l.operation.behind l.code))) = _ := apparent_of_colon l.blank hne hw
  rw [hmore, List.append_assoc] at h
  exact h

theorem apparent_bareLine (l : BareLine) : apparent l.text = .bare := by
  have hw : ∀ d ∈ l.address.digits, inWord d = true :=
    fun d hd => inWord_of_isHex (l.address.hex d hd)
  have hl := l.operation.mnemonic.letter
  have h : apparent (l.address.digits ++ (l.gap.chars
      ++ l.operation.mnemonic.initial :: (l.operation.mnemonic.others ++ l.operation.rest))) = _ :=
    apparent_of_gap l.gap l.address.ne_nil hw (isBlank_of_isAlpha hl)
  rw [hl] at h
  exact h

/-- **A line has no form but the apparent one.** -/
theorem apparent_of_read? {cs : List Char} {f : Form} {line : Line} (h : read? cs f = some line) :
    apparent cs = f := by
  cases f with
  | symbol =>
    obtain ⟨name, hn, _⟩ := Option.map_eq_some_iff.mp h
    exact apparent_symbol hn
  | label =>
    obtain ⟨name, hn, _⟩ := Option.map_eq_some_iff.mp h
    exact apparent_label hn
  | colon =>
    obtain ⟨fields, hf, _⟩ := Option.map_eq_some_iff.mp h
    obtain ⟨l, rfl⟩ := exists_colonLine hf
    exact apparent_colonLine l
  | bare =>
    obtain ⟨fields, hf, _⟩ := Option.map_eq_some_iff.mp h
    obtain ⟨l, rfl⟩ := exists_bareLine hf
    exact apparent_bareLine l

/-! ## Orders -/

theorem read?_of_ne_apparent {cs : List Char} {f : Form} (h : f ≠ apparent cs) :
    read? cs f = none := by
  cases hr : read? cs f with
  | none => rfl
  | some line => exact absurd (apparent_of_read? hr).symm h

/-- trying forms in any order comes to trying the apparent one -/
theorem findSome?_read? {cs : List Char} {forms : List Form} (h : apparent cs ∈ forms) :
    forms.findSome? (read? cs) = read? cs (apparent cs) := by
  cases hr : read? cs (apparent cs) with
  | none =>
    rw [List.findSome?_eq_none_iff]
    intro f _
    by_cases hf : f = apparent cs
    · rw [hf, hr]
    · exact read?_of_ne_apparent hf
  | some line =>
    induction forms with
    | nil => cases h
    | cons f forms ih =>
      rw [List.findSome?_cons]
      by_cases hf : f = apparent cs
      · rw [hf, hr]
      · have hmem := (List.mem_cons.mp h).resolve_left fun he => hf he.symm
        rw [read?_of_ne_apparent hf]
        exact ih hmem

theorem read?_exclusive {f g : Form} (h : f ≠ g) (cs : List Char) :
    read? cs f = none ∨ read? cs g = none := by
  by_cases hf : f = apparent cs
  · exact Or.inr (read?_of_ne_apparent fun hg => h (hf.trans hg.symm))
  · exact Or.inl (read?_of_ne_apparent hf)

theorem countP_read?_le (cs : List Char) :
    (all.countP fun f => (read? cs f).isSome) ≤ 1 := by
  have hmono : (all.countP fun f => (read? cs f).isSome) ≤ all.countP (· == apparent cs) := by
    apply List.countP_mono_left
    intro f _ hf
    obtain ⟨line, hr⟩ := Option.isSome_iff_exists.mp hf
    rw [beq_iff_eq]
    exact (apparent_of_read? hr).symm
  have hcount : all.countP (· == apparent cs) ≤ 1 := by
    cases apparent cs <;> decide
  exact Nat.le_trans hmono hcount

end Form

theorem read_eq_first (cs : List Char) : Line.read cs = Form.first Form.all cs := by
  unfold Line.read headerName? Form.first Form.all
  rw [instruction?_eq, fields?]
  simp only [List.findSome?_cons, List.findSome?_nil, Form.read?]
  cases symbolName? cs with
  | some name => rfl
  | none =>
    cases labelName? cs with
    | some name => rfl
    | none =>
      cases colonFields? cs with
      | some f => rfl
      | none =>
        cases bareFields? cs with
        | some f => rfl
        | none => rfl

end Line

/-- a listing whose lines are classified in some other way -/
def Listing.readBy (classify : List Char → Line) (text : String) : Except Fault Listing :=
  let listing := ofLines ((lines text.toList).map classify)
  if listing.instructionCount = 0 then .error (.noInstructionLines listing.linesRead)
  else .ok listing

namespace Line

theorem or_comm_of_exclusive {α : Type} {a b : Option α} (h : a = none ∨ b = none) :
    a.or b = b.or a := by
  rcases h with rfl | rfl
  · rw [Option.none_or, Option.or_none]
  · rw [Option.none_or, Option.or_none]

theorem headerName?_comm (cs : List Char) : headerName? cs = (labelName? cs).or (symbolName? cs) := by
  have h := Form.read?_exclusive (f := .symbol) (g := .label) (by decide) cs
  simp only [Form.read?, Option.map_eq_none_iff] at h
  exact or_comm_of_exclusive h

theorem fields?_comm (cs : List Char) : fields? cs = (bareFields? cs).or (colonFields? cs) := by
  have h := Form.read?_exclusive (f := .colon) (g := .bare) (by decide) cs
  simp only [Form.read?, Option.map_eq_none_iff] at h
  exact or_comm_of_exclusive h

theorem headerName?_or_instruction? (cs : List Char) :
    headerName? cs = none ∨ instruction? cs = none := by
  have h : ∀ f g : Form, f ≠ g → Form.read? cs f = none ∨ Form.read? cs g = none :=
    fun f g hne => Form.read?_exclusive hne cs
  have h₁ := h .symbol .colon (by decide)
  have h₂ := h .symbol .bare (by decide)
  have h₃ := h .label .colon (by decide)
  have h₄ := h .label .bare (by decide)
  simp only [Form.read?, Option.map_eq_none_iff] at h₁ h₂ h₃ h₄
  rw [instruction?_eq, Option.map_eq_none_iff, headerName?, fields?, Option.or_eq_none_iff,
    Option.or_eq_none_iff]
  grind

/-- **At most one form applies to a line, so the order of the forms never matters**: not within
headers, not within instructions, not between the two, and not for a whole listing. -/
theorem read_in_any_order (forms : List Form) (hforms : ∀ f, f ∈ forms) :
    (∀ cs, (Form.all.countP fun f => (Form.read? cs f).isSome) ≤ 1)
      ∧ (∀ cs, headerName? cs = none ∨ instruction? cs = none)
      ∧ (∀ cs, headerName? cs = (labelName? cs).or (symbolName? cs))
      ∧ (∀ cs, fields? cs = (bareFields? cs).or (colonFields? cs))
      ∧ (∀ cs, Line.read cs = Form.first forms cs)
      ∧ ∀ text, Listing.read text = Listing.readBy (Form.first forms) text := by
  have hread : ∀ cs, Line.read cs = Form.first forms cs := by
    intro cs
    have hall : Form.apparent cs ∈ Form.all := by cases Form.apparent cs <;> decide
    rw [read_eq_first, Form.first, Form.first, Form.findSome?_read? hall,
      Form.findSome?_read? (hforms _)]
  refine ⟨Form.countP_read?_le, headerName?_or_instruction?, headerName?_comm, fields?_comm, hread, ?_⟩
  intro text
  have hfun : Line.read = Form.first forms := funext hread
  rw [← hfun]
  rfl

/-- Tried in the opposite order, the forms still tell the label `deadbeef:` from an instruction. -/
theorem read_in_any_order_reversed :
    (∀ f, f ∈ Form.all.reverse)
      ∧ Form.first Form.all.reverse "deadbeef:".toList = .header "deadbeef"
      ∧ Form.first Form.all.reverse "100003f40: add".toList
        = .instruction ⟨"100003f40", "ADD", "", "100003f40: add"⟩ := by
  have hforms : ∀ f, f ∈ Form.all.reverse := by
    intro f
    cases f <;> decide
  have h := (read_in_any_order Form.all.reverse hforms).2.2.2.2.1
  refine ⟨hforms, ?_, ?_⟩
  · rw [← h]
    decide +kernel
  · rw [← h]
    decide +kernel

end Line

end MacroFusion
