import MacroFusion.Proofs.Listing.Columns
import MacroFusion.Proofs.Listing.Grouping
import MacroFusion.Proofs.Listing.Headings

/-!
# Rendering: a listing written out and read back

A `Row` is an instruction as a line of its own, a `Block` a function as a header line with its rows.
Their fields carry what it takes to be read back: addresses are hexadecimal, operands have no blanks
around them, nothing breaks a line, and without machine code a mnemonic does not look like it.  The name
of a function is any text; the brackets around it are found from the two ends of the line.

* `Row.read_text`      a row is read as its instruction;
* `Block.read_header`  a header is read as the name of the function;
* `read_render`        a rendered listing is read as the functions that it was made from.
-/

namespace MacroFusion

open Text

/-! ## Rows -/

/-- an instruction as it is written on a line -/
structure Row where
  address : Line.HexRun
  code : Option Line.Code := none
  mnemonic : Line.Mnemonic
  operands : List Char
  operands_trimmed : trim operands = operands
  operands_unbroken : Unbroken operands
  /-- without machine code the mnemonic is not eight hexadecimal digits -/
  plain : code = none → ¬ mnemonic.LooksLikeCode

namespace Row

/-- the machine code and the space after it, if there is any -/
def codeColumn (r : Row) : List Char :=
  match r.code with
  | some code => code.text ++ [' ']
  | none => []

def text (r : Row) : List Char :=
  ' ' :: ' ' :: (r.address.digits ++ ':' :: '\t'
    :: (r.codeColumn ++ (r.mnemonic.text ++ '\t' :: r.operands)))

def instruction (r : Row) : Instruction :=
  { address := String.ofList (r.address.digits.map Char.toLower)
    mnemonic := String.ofList (upper r.mnemonic.text)
    operands := String.ofList r.operands
    raw := String.ofList (trim r.text) }

theorem unbroken_text (r : Row) : Unbroken r.text := by
  have ha := Line.unbroken_of_isHex r.address.hex
  have hm : Unbroken r.mnemonic.text :=
    fun c hc => Line.isLineBreak_of_isMnemonicChar (r.mnemonic.word_text c hc)
  have hc : Unbroken r.codeColumn := by
    unfold codeColumn
    cases r.code with
    | none => exact unbroken_nil
    | some code =>
      show Unbroken (code.text ++ [' '])
      rw [unbroken_append_iff, unbroken_cons_iff]
      exact ⟨code.unbroken_text, by decide, unbroken_nil⟩
  simp only [text, unbroken_cons_iff, unbroken_append_iff]
  exact ⟨by decide, by decide, ha, by decide, by decide, hc, hm, by decide, r.operands_unbroken⟩

/-- the mnemonic and the operands on their own -/
theorem operation?_row (r : Row) :
    Line.operation? r.address.digits (r.mnemonic.text ++ '\t' :: r.operands)
      = some ⟨r.address.digits, r.mnemonic.text, r.operands⟩ := by
  have htab : isBlank '\t' = true := by decide
  have hs : Stops Line.isMnemonicChar ('\t' :: r.operands) :=
    stops_cons (Line.isMnemonicChar_of_isBlank htab) _
  have hn : '\n' ∉ '\t' :: r.operands :=
    (unbroken_cons_iff.mpr ⟨by decide, r.operands_unbroken⟩).not_mem_newline
  rw [Line.operation?_mnemonic _ _ hs hn, List.dropWhile_cons_of_pos htab,
    dropWhile_of_stops (stops_of_trim_eq r.operands_trimmed)]

/-- **The fields of a row are those that it was made from.** -/
theorem fields?_text (r : Row) :
    Line.fields? r.text = some ⟨r.address.digits, r.mnemonic.text, r.operands⟩ := by
  have hindent : ∀ c ∈ [' ', ' '], isBlank c = true := List.all_eq_true.mp rfl
  have hgap : ∀ c ∈ ['\t'], isBlank c = true := List.all_eq_true.mp rfl
  have hspace : ∀ c ∈ [' '], isBlank c = true := List.all_eq_true.mp rfl
  have hm := r.mnemonic.stops_blank ('\t' :: r.operands)
  rw [text, Line.fields?_of_indented (by decide)]
  cases hc : r.code with
  | none =>
    have e : r.codeColumn = [] := by rw [codeColumn, hc]
    have h := Line.colonFields?_columns r.address hindent (by simp) hgap hm
    rw [Line.dropCode?_mnemonic r.mnemonic (r.plain hc), r.operation?_row] at h
    rw [e]
    exact h
  | some code =>
    have e : r.codeColumn ++ (r.mnemonic.text ++ '\t' :: r.operands)
        = code.text ++ ([' '] ++ (r.mnemonic.text ++ '\t' :: r.operands)) := by
      rw [codeColumn, hc, List.append_assoc]
    have h := Line.colonFields?_columns r.address hindent (by simp) hgap
      (code.stops_blank ([' '] ++ (r.mnemonic.text ++ '\t' :: r.operands)))
    rw [Line.dropCode?_code code (by simp) hspace hm, Option.bind_some, r.operation?_row,
      Option.some_or] at h
    rw [e]
    exact h

/-- **A row is read as its instruction.** -/
theorem read_text (r : Row) : Line.read r.text = .instruction r.instruction := by
  have hheader : Line.headerName? r.text = none := Line.headerName?_of_indented (by decide) _
  have hinstr : Line.instruction? r.text = some r.instruction := by
    rw [Line.instruction?, r.fields?_text, Option.map_some]
    dsimp only
    rw [r.operands_trimmed]
    rfl
  unfold Line.read
  rw [hheader, hinstr]

end Row

/-! ## Blocks -/

/-- a function as it is written: a header with an address and the name, and the rows -/
structure Block where
  address : Line.HexRun
  name : List Char
  rows : List Row
  name_ne_nil : name ≠ []
  name_unbroken : Unbroken name

namespace Block

def header (b : Block) : List Char :=
  b.address.digits ++ ' ' :: '<' :: (b.name ++ ['>', ':'])

def lines (b : Block) : List (List Char) := b.header :: b.rows.map Row.text

def function (b : Block) : Function :=
  { name := String.ofList b.name, instructions := b.rows.map Row.instruction }

theorem header_ne_nil (b : Block) : b.header ≠ [] :=
  List.append_ne_nil_of_left_ne_nil b.address.ne_nil _

theorem unbroken_header (b : Block) : Unbroken b.header := by
  simp only [header, unbroken_append_iff, unbroken_cons_iff]
  exact ⟨Line.unbroken_of_isHex b.address.hex, by decide, by decide, b.name_unbroken, by decide,
    by decide, unbroken_nil⟩

/-- the header with its parts apart -/
def heading (b : Block) : Line.SymbolHeading where
  address := b.address
  gap := ⟨[' '], by simp, List.all_eq_true.mp rfl⟩
  bracket := .angular
  name := b.name
  ne_nil := b.name_ne_nil

/-- **A header is read as the name of its function.** -/
theorem headerName?_header (b : Block) : Line.headerName? b.header = some b.name := by
  have htrim : trimEnd b.header = b.header := by
    have e : b.header = (b.address.digits ++ ' ' :: '<' :: (b.name ++ ['>'])) ++ [':'] := by
      simp [header]
    rw [e, trimEnd_concat _ (by decide)]
  have htext : (Line.Heading.symbol b.heading).text = trimEnd b.header := by
    rw [htrim]
    rfl
  exact Line.headerName?_text htext b.unbroken_header.not_mem_newline

theorem read_header (b : Block) : Line.read b.header = .header (String.ofList b.name) := by
  unfold Line.read
  rw [headerName?_header]

/-- the lines of a block after reading -/
def toSection (b : Block) : Listing.Section where
  name := String.ofList b.name
  body := b.rows.map fun r => .instruction r.instruction
  headless := by
    intro l hl
    obtain ⟨r, _, rfl⟩ := List.mem_map.mp hl
    rfl

theorem read_lines (b : Block) : b.lines.map Line.read = b.toSection.lines := by
  rw [lines, List.map_cons, read_header, List.map_map]
  show _ :: b.rows.map (fun r => Line.read r.text) = _
  rw [List.map_congr_left fun r _ => r.read_text]
  rfl

theorem function_toSection (b : Block) : b.toSection.function = b.function := by
  have h : ∀ rows : List Row,
      Listing.instructionsIn (rows.map fun r => .instruction r.instruction)
        = rows.map Row.instruction := by
    intro rows
    induction rows with
    | nil => rfl
    | cons r rows ih =>
      rw [List.map_cons, List.map_cons, ← ih]
      rfl
  show ({ name := _, instructions := Listing.instructionsIn _ } : Function) = _
  rw [toSection, h]
  rfl

end Block

/-! ## Listings -/

/-- blocks written out, line after line -/
def render (bs : List Block) : String :=
  String.ofList (['\n'].intercalate (bs.flatMap Block.lines))

theorem lines_render (bs : List Block) :
    Text.lines (render bs).toList = bs.flatMap Block.lines := by
  rw [render, String.toList_ofList]
  apply lines_intercalate
  intro l hl
  obtain ⟨b, _, hb⟩ := List.mem_flatMap.mp hl
  rcases List.mem_cons.mp hb with rfl | hr
  · exact ⟨b.unbroken_header, b.header_ne_nil⟩
  · obtain ⟨r, _, rfl⟩ := List.mem_map.mp hr
    exact ⟨r.unbroken_text, List.cons_ne_nil _ _⟩

theorem classified_render (bs : List Block) :
    Listing.classified (render bs) = (bs.map Block.toSection).flatMap Listing.Section.lines := by
  rw [Listing.classified, lines_render, List.map_flatMap, List.flatMap_map]
  simp only [Block.read_lines]

theorem group_classified_render (bs : List Block) :
    Listing.group (Listing.classified (render bs)) = ([], bs.map Block.function) := by
  rw [classified_render, Listing.group_sections, List.map_map]
  have h : Listing.Section.function ∘ Block.toSection = Block.function := by
    funext b
    exact b.function_toSection
  rw [h]

/-- nothing that is rendered is skipped -/
theorem countP_isNoise_render (bs : List Block) :
    (Listing.classified (render bs)).countP (·.isNoise) = 0 := by
  rw [List.countP_eq_zero, classified_render]
  intro l hl
  obtain ⟨s, hs, hb⟩ := List.mem_flatMap.mp hl
  obtain ⟨b, _, rfl⟩ := List.mem_map.mp hs
  rcases List.mem_cons.mp hb with rfl | hr
  · exact Bool.false_ne_true
  · obtain ⟨r, _, rfl⟩ := List.mem_map.mp hr
    exact Bool.false_ne_true

/-- **Reading undoes rendering.**  A rendered listing with at least one instruction is read as just the
functions it was made from, without a warning and without a skipped line. -/
theorem read_render (bs : List Block) (h : ∃ b ∈ bs, b.rows ≠ []) :
    Listing.read (render bs) = .ok
      { functions := bs.map Block.function
        lowConfidence := false
        warnings := []
        linesRead := (bs.flatMap Block.lines).length
        skippedLines := 0 } := by
  have hex : ∃ l ∈ Listing.classified (render bs), l.isInstruction = true := by
    obtain ⟨b, hb, hne⟩ := h
    obtain ⟨r, rows, hr⟩ := List.exists_cons_of_ne_nil hne
    refine ⟨.instruction r.instruction, ?_, rfl⟩
    rw [classified_render, List.mem_flatMap]
    refine ⟨b.toSection, List.mem_map_of_mem hb, ?_⟩
    apply List.mem_cons_of_mem
    show _ ∈ b.rows.map _
    rw [hr]
    exact List.mem_cons_self
  have hg := group_classified_render bs
  have hlen : (Listing.classified (render bs)).length = (bs.flatMap Block.lines).length := by
    rw [Listing.classified, List.length_map, lines_render]
  rw [Listing.read_of_instruction hex, Listing.ofLines_of_group_nil (by rw [hg]), hg, hlen,
    countP_isNoise_render]

/-- brackets and a colon in the name, digits for a mnemonic, one row with machine code and one without -/
def Block.bracketed : Block where
  address := ⟨['4', '0'], by decide, List.all_eq_true.mp rfl⟩
  name := ['v', '>', ':', ' ', '<', 'w']
  rows :=
    [{ address := ⟨['4', 'A'], by decide, List.all_eq_true.mp rfl⟩
       code := some (.bytes ⟨'d', 'e', rfl, rfl⟩ ⟨'a', 'd', rfl, rfl⟩ ⟨'b', 'e', rfl, rfl⟩
         ⟨'e', 'f', rfl, rfl⟩)
       mnemonic := ⟨'a', ['d', 'd'], by decide, List.all_eq_true.mp rfl⟩
       operands := ['x', '0', ',', ' ', '#', '1']
       operands_trimmed := by decide
       operands_unbroken := by decide
       plain := nofun },
     { address := ⟨['4', 'E'], by decide, List.all_eq_true.mp rfl⟩
       mnemonic := ⟨'d', ['e', 'a', 'd', 'b', 'e', 'e'], by decide, List.all_eq_true.mp rfl⟩
       operands := []
       operands_trimmed := by decide
       operands_unbroken := by decide
       plain := fun _ => by decide }]
  name_ne_nil := by decide
  name_unbroken := by decide

theorem read_render_bracketed :
    (∃ b ∈ [Block.bracketed], b.rows ≠ [])
      ∧ Listing.read "40 <v>: <w>:\n  4A:\tde ad be ef add\tx0, #1\n  4E:\tdeadbee\t" = .ok
        { functions :=
            [{ name := "v>: <w"
               instructions :=
                [{ address := "4a", mnemonic := "ADD", operands := "x0, #1"
                   raw := "4A:\tde ad be ef add\tx0, #1" },
                 { address := "4e", mnemonic := "DEADBEE", operands := ""
                   raw := "4E:\tdeadbee" }] }]
          lowConfidence := false
          warnings := []
          linesRead := 3
          skippedLines := 0 } := by
  have h : ∃ b ∈ [Block.bracketed], b.rows ≠ [] :=
    ⟨_, List.mem_singleton_self _, List.cons_ne_nil _ _⟩
  exact ⟨h, read_render [Block.bracketed] h⟩

end MacroFusion
