import MacroFusion.Proofs.Listing.Columns

/-!
# Machine code: when it changes what is read

Machine code is a column of its own, and a line should be decoded as if it were not there.  It is, as
long as a mnemonic comes after it.  In front of anything else, such as a data directive, the reading
that drops the code fails, and the code itself is read as the mnemonic if it begins with a letter.

* `fields?_codeLine_of_letter`       with a mnemonic after it the code is gone;
* `fields?_codeLine_of_not_letter`   otherwise the line is read as if it had no code;
* `decoded?_misread`                 what is made of the code then;
* `decoded?_codeLine_iff`            so two lines that differ in their code alone are decoded alike just
                                     in three cases.
-/

namespace MacroFusion.Line

open Text

/-- an indented line with an address, machine code, and the rest of the line -/
def codeLine (a : HexRun) (code : Code) (rest : List Char) : List Char :=
  ' ' :: ' ' :: (a.digits ++ ':' :: '\t' :: (code.text ++ ' ' :: '\t' :: rest))

/-- what a line is decoded as: the address, the mnemonic and the operands -/
def decoded? (cs : List Char) : Option (String × String × String) :=
  (instruction? cs).map fun i => (i.address, i.mnemonic, i.operands)

theorem decoded?_eq (cs : List Char) :
    decoded? cs = (fields? cs).map fun f => (String.ofList (f.address.map Char.toLower),
      String.ofList (upper f.mnemonic), String.ofList (trim f.operands)) := by
  rw [decoded?, instruction?, Option.map_map]
  rfl

namespace Code

def startsWithLetter (code : Code) : Bool := code.first.head?.any Char.isAlpha

/-- code that begins with a letter has the form of a mnemonic -/
theorem exists_mnemonic (code : Code) (h : code.startsWithLetter = true) :
    ∃ m : Mnemonic, m.text = code.first := by
  obtain ⟨d, ds, hd⟩ := List.exists_cons_of_ne_nil code.first_ne_nil
  have hl : d.isAlpha = true := by
    rw [startsWithLetter, hd] at h
    exact h
  refine ⟨⟨d, ds, hl, ?_⟩, hd.symm⟩
  intro c hc
  exact isMnemonicChar_of_isHex (code.hex_first c (by rw [hd]; exact List.mem_cons_of_mem _ hc))

theorem stops_letter (code : Code) (h : code.startsWithLetter = false) (rest : List Char) :
    Stops Char.isAlpha (code.text ++ rest) := by
  obtain ⟨d, ds, hd⟩ := List.exists_cons_of_ne_nil code.first_ne_nil
  rw [startsWithLetter, hd] at h
  rw [text, hd]
  exact stops_cons h _

/-- the bytes that are taken for operands, with the blanks after them -/
def operandBytes : Code → List Char
  | word _ _ _ => []
  | bytes _ b₁ b₂ b₃ => b₁.text ++ ' ' :: b₂.text ++ ' ' :: b₃.text ++ [' ', '\t']

theorem operandBytes_inj (code₁ code₂ : Code) :
    code₁.operandBytes = code₂.operandBytes ↔ code₁.further = code₂.further := by
  cases code₁ <;> cases code₂ <;> simp [operandBytes, further, HexByte.text]

theorem stops_mnemonic (code : Code) (rest : List Char) :
    Stops isMnemonicChar (code.further ++ ' ' :: rest) := by
  have hsp : isMnemonicChar ' ' = false := by decide +kernel
  cases code with
  | word _ _ _ => exact stops_cons hsp _
  | bytes _ _ _ _ => exact stops_cons hsp _

theorem stops_operandBytes (code : Code) {rest : List Char} (h : Stops isBlank rest) :
    Stops isBlank (code.operandBytes ++ rest) := by
  cases code with
  | word _ _ _ => exact h
  | bytes _ b₁ _ _ => exact stops_cons (isBlank_of_isHex b₁.high_hex) _

/-- without the blanks in front -/
theorem dropWhile_further (code : Code) {rest : List Char} (h : Stops isBlank rest) :
    (code.further ++ ' ' :: '\t' :: rest).dropWhile isBlank = code.operandBytes ++ rest := by
  have hsp : isBlank ' ' = true := by decide
  have htab : isBlank '\t' = true := by decide
  cases code with
  | word _ _ _ =>
    show List.dropWhile isBlank (' ' :: '\t' :: rest) = rest
    rw [List.dropWhile_cons_of_pos hsp, List.dropWhile_cons_of_pos htab, dropWhile_of_stops h]
  | bytes b₀ b₁ b₂ b₃ =>
    have e : (bytes b₀ b₁ b₂ b₃).further ++ ' ' :: '\t' :: rest
        = ' ' :: ((bytes b₀ b₁ b₂ b₃).operandBytes ++ rest) := by
      simp [further, operandBytes]
    rw [e, List.dropWhile_cons_of_pos hsp, dropWhile_of_stops (stops_operandBytes _ h)]

end Code

section
variable (a : HexRun) (code : Code) {rest : List Char}

theorem fields?_codeLine (hr : Stops isBlank rest) :
    fields? (codeLine a code rest) = (operation? a.digits rest).or
      (operation? a.digits (code.text ++ ' ' :: '\t' :: rest)) := by
  have hblank : ∀ c ∈ [' ', ' '], isBlank c = true := List.all_eq_true.mp rfl
  have htab : ∀ c ∈ ['\t'], isBlank c = true := List.all_eq_true.mp rfl
  have hgap : ∀ c ∈ [' ', '\t'], isBlank c = true := List.all_eq_true.mp rfl
  have h := colonFields?_columns a hblank (by simp) htab (code.stops_blank (' ' :: '\t' :: rest))
  have hd := dropCode?_code code (by simp) hgap hr
  rw [show code.text ++ ' ' :: '\t' :: rest = code.text ++ ([' ', '\t'] ++ rest) from rfl, hd] at h
  rw [codeLine, fields?_of_indented (by decide)]
  exact h

theorem fields?_codeLine_of_letter {c : Char} {cs : List Char} (hc : c.isAlpha = true)
    (hn : '\n' ∉ c :: cs) : fields? (codeLine a code (c :: cs)) = operation? a.digits (c :: cs) := by
  rw [fields?_codeLine a code (stops_cons (isBlank_of_isAlpha hc) cs),
    operation?_of_letter a.digits hc hn, Option.some_or]

theorem fields?_codeLine_of_not_letter (hr : Stops isBlank rest) (hl : Stops Char.isAlpha rest) :
    fields? (codeLine a code rest) = operation? a.digits (code.text ++ ' ' :: '\t' :: rest) := by
  rw [fields?_codeLine a code hr, operation?_of_stops a.digits hl, Option.none_or]

/-- code that begins with a digit is no mnemonic, and the line no instruction -/
theorem decoded?_of_digit (hr : Stops isBlank rest) (hl : Stops Char.isAlpha rest)
    (h : code.startsWithLetter = false) : decoded? (codeLine a code rest) = none := by
  rw [decoded?_eq, fields?_codeLine_of_not_letter a code hr hl,
    operation?_of_stops a.digits (code.stops_letter h _)]
  rfl

/-- **Code that is misread**: its first digits become the mnemonic, its other bytes and the rest of the
line the operands. -/
theorem decoded?_misread {c : Char} {cs : List Char} (hc : isBlank c = false)
    (hl : c.isAlpha = false) (hu : Unbroken (c :: cs)) (h : code.startsWithLetter = true) :
    decoded? (codeLine a code (c :: cs)) = some (String.ofList (a.digits.map Char.toLower),
      String.ofList (code.first.map Char.toUpper),
      String.ofList (code.operandBytes ++ trimEnd (c :: cs))) := by
  have hr : Stops isBlank (c :: cs) := stops_cons hc cs
  obtain ⟨m, hm⟩ := code.exists_mnemonic h
  have hn : '\n' ∉ code.further ++ ' ' :: '\t' :: c :: cs := by
    apply Unbroken.not_mem_newline
    rw [unbroken_append_iff, unbroken_cons_iff, unbroken_cons_iff]
    exact ⟨code.unbroken_further, by decide, by decide, hu⟩
  have hop : operation? a.digits (code.text ++ ' ' :: '\t' :: c :: cs)
      = some ⟨a.digits, code.first, code.operandBytes ++ c :: cs⟩ := by
    have := operation?_mnemonic a.digits m (code.stops_mnemonic ('\t' :: c :: cs)) hn
    rw [hm, code.dropWhile_further hr] at this
    rw [Code.text, List.append_assoc]
    exact this
  have htrim : trim (code.operandBytes ++ c :: cs) = code.operandBytes ++ trimEnd (c :: cs) := by
    rw [trim_of_stops (code.stops_operandBytes hr),
      trimEnd_append (trimEnd_ne_nil List.mem_cons_self hc)]
  rw [decoded?_eq, fields?_codeLine_of_not_letter a code hr (stops_cons hl cs), hop]
  show some (_, String.ofList (upper code.first), String.ofList (trim _)) = _
  rw [upper_of_isHex code.hex_first, htrim]

end

/-- **When machine code does not matter.**  Two lines that differ in their machine code alone are decoded
alike if and only if a letter follows the code, or both codes begin with a decimal digit, or both begin
with a letter and are the same up to the case of what is taken for the mnemonic. -/
theorem decoded?_codeLine_iff (a : HexRun) (code₁ code₂ : Code) (c : Char) (cs : List Char)
    (hc : isBlank c = false) (hu : Unbroken (c :: cs)) :
    decoded? (codeLine a code₁ (c :: cs)) = decoded? (codeLine a code₂ (c :: cs))
      ↔ c.isAlpha = true
        ∨ (code₁.startsWithLetter = false ∧ code₂.startsWithLetter = false)
        ∨ (code₁.startsWithLetter = true ∧ code₂.startsWithLetter = true
          ∧ code₁.first.map Char.toUpper = code₂.first.map Char.toUpper
          ∧ code₁.further = code₂.further) := by
  cases hl : c.isAlpha with
  | true =>
    have h : ∀ code, decoded? (codeLine a code (c :: cs))
        = (operation? a.digits (c :: cs)).map _ := fun code => by
      rw [decoded?_eq, fields?_codeLine_of_letter a code hl hu.not_mem_newline]
    rw [h code₁, h code₂]
    simp
  | false =>
    have hr : Stops isBlank (c :: cs) := stops_cons hc cs
    have hd := fun code => decoded?_of_digit a code hr (stops_cons hl cs)
    have hm := fun code => decoded?_misread a code hc hl hu
    cases h₁ : code₁.startsWithLetter with
    | false =>
      cases h₂ : code₂.startsWithLetter with
      | false =>
        rw [hd code₁ h₁, hd code₂ h₂]
        simp
      | true =>
        rw [hd code₁ h₁, hm code₂ h₂]
        simp
    | true =>
      cases h₂ : code₂.startsWithLetter with
      | false =>
        rw [hm code₁ h₁, hd code₂ h₂]
        simp
      | true =>
        rw [hm code₁ h₁, hm code₂ h₂, ← Code.operandBytes_inj]
        simp [String.ofList_inj]

/-- A data directive is an instruction after the code `d10083ff`, and none after `00000000`. -/
theorem decoded?_codeLine_directive :
    isBlank '.' = false ∧ Unbroken ['.', 'w', 'o', 'r', 'd', '\t', '0', 'x', '1']
      ∧ decoded? (codeLine ⟨['4', '0', '0', '5', '4', '4'], by decide, List.all_eq_true.mp rfl⟩
          (.word ['d', '1', '0', '0', '8', '3', 'f', 'f'] rfl (List.all_eq_true.mp rfl))
          ['.', 'w', 'o', 'r', 'd', '\t', '0', 'x', '1'])
        ≠ decoded? (codeLine ⟨['4', '0', '0', '5', '4', '4'], by decide, List.all_eq_true.mp rfl⟩
          (.word ['0', '0', '0', '0', '0', '0', '0', '0'] rfl (List.all_eq_true.mp rfl))
          ['.', 'w', 'o', 'r', 'd', '\t', '0', 'x', '1']) := by
  have hc : isBlank '.' = false := by decide
  have hu : Unbroken ['.', 'w', 'o', 'r', 'd', '\t', '0', 'x', '1'] := by decide
  refine ⟨hc, hu, fun h => ?_⟩
  have hcases := (decoded?_codeLine_iff _ _ _ _ _ hc hu).mp h
  exact absurd hcases (by decide)

end MacroFusion.Line
