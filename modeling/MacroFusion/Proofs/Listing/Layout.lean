import MacroFusion.Proofs.Listing.Columns

/-!
# Layouts: the grammar of instruction lines

A LAYOUT is an instruction line with all its parts apart, in one of two forms:

    indent ['0x'] address ':' gap [code gap] operation        address gap operation

and `text` puts the parts together again.  The types carry what the grammar asks of each part, so a
layout is always well-formed.  The operation is a mnemonic, which goes on as far as it can, and whatever
comes after it.

* `exists_colonLine`, `exists_bareLine`   what a reader accepts has a layout: each step of the reader
                                          tells where a part begins and ends;
* `colonFields?_text`, `bareFields?_text`   what has a layout is read as the layout says, but for the
                                          choice between the readings with and without machine code.
-/

namespace MacroFusion.Line

open Text

/-! ## Parts -/

/-- blanks, at least one -/
@[ext] structure Gap where
  chars : List Char
  ne_nil : chars ≠ []
  blank : ∀ c ∈ chars, isBlank c = true

/-- a mnemonic, and what comes after its last character -/
@[ext] structure Operation where
  mnemonic : Mnemonic
  rest : List Char
  ends : Stops isMnemonicChar rest

namespace Operation

def text (op : Operation) : List Char := op.mnemonic.text ++ op.rest

/-- the operation with machine code in front of it, if there is any -/
def behind (op : Operation) : Option (Code × Gap) → List Char
  | some (code, gap) => code.text ++ (gap.chars ++ op.text)
  | none => op.text

theorem mem_behind {op : Operation} {c : Char} (h : c ∈ op.text) (code : Option (Code × Gap)) :
    c ∈ op.behind code := by
  cases code with
  | some code => exact List.mem_append_right _ (List.mem_append_right _ h)
  | none => exact h

theorem stops_blank (op : Operation) : Stops isBlank op.text := op.mnemonic.stops_blank op.rest

theorem stops_blank_behind (op : Operation) (code : Option (Code × Gap)) :
    Stops isBlank (op.behind code) := by
  cases code with
  | some code => exact code.1.stops_blank _
  | none => exact op.stops_blank

end Operation

/-- a line with a colon after the address -/
@[ext] structure ColonLine where
  indent : List Char
  blank : ∀ c ∈ indent, isBlank c = true
  signed : Bool
  address : HexRun
  gap : Gap
  /-- machine code, with the gap after it -/
  code : Option (Code × Gap)
  operation : Operation

/-- an unindented line without a colon -/
@[ext] structure BareLine where
  address : HexRun
  eight_le : 8 ≤ address.digits.length
  le_sixteen : address.digits.length ≤ 16
  gap : Gap
  operation : Operation

def ColonLine.text (l : ColonLine) : List Char :=
  l.indent ++ (sign l.signed
    ++ (l.address.digits ++ ':' :: (l.gap.chars ++ l.operation.behind l.code)))

def BareLine.text (l : BareLine) : List Char :=
  l.address.digits ++ (l.gap.chars ++ l.operation.text)

/-! ## What a reader accepts has a layout -/

theorem dropChar?_eq_some {d : Char} {cs rest : List Char} (h : dropChar? d cs = some rest) :
    cs = d :: rest := by
  cases cs with
  | nil => cases h
  | cons c cs =>
    by_cases hc : c = d
    · have hr : cs = rest := by simpa [dropChar?, hc] using h
      rw [hc, hr]
    · simp [dropChar?, hc] at h

theorem exists_gap {cs rest : List Char} (h : dropBlanks? cs = some rest) :
    ∃ gap : Gap, cs = gap.chars ++ rest := by
  cases cs with
  | nil => cases h
  | cons c cs =>
    cases hc : isBlank c with
    | false => simp [dropBlanks?, hc] at h
    | true =>
      have hr : cs.dropWhile isBlank = rest := by simpa [dropBlanks?, hc] using h
      refine ⟨⟨c :: cs.takeWhile isBlank, List.cons_ne_nil _ _, ?_⟩, ?_⟩
      · intro d hd
        rcases List.mem_cons.mp hd with rfl | hd
        · exact hc
        · exact List.all_eq_true.mp List.all_takeWhile d hd
      · show c :: cs = c :: (cs.takeWhile isBlank ++ rest)
        rw [← hr, List.takeWhile_append_dropWhile]

theorem exists_byte {cs rest : List Char} (h : dropHex? 2 cs = some rest) :
    ∃ b : HexByte, cs = b.text ++ rest := by
  obtain ⟨ds, he, hlen, hhex⟩ := exists_of_dropHex? h
  match ds, hlen, hhex with
  | [high, low], _, hhex => exact ⟨⟨high, low, hhex high (by simp), hhex low (by simp)⟩, he⟩

theorem exists_bytes {cs rest : List Char} (h : dropCodeBytes? cs = some rest) :
    ∃ code : Code, cs = code.text ++ rest := by
  simp only [dropCodeBytes?, Option.bind_eq_bind, Option.bind_eq_some_iff] at h
  obtain ⟨cs₁, h₀, cs₂, ⟨_, s₁, h₁⟩, cs₃, ⟨_, s₂, h₂⟩, _, s₃, h₃⟩ := h
  obtain ⟨b₀, e₀⟩ := exists_byte h₀
  obtain ⟨b₁, e₁⟩ := exists_byte h₁
  obtain ⟨b₂, e₂⟩ := exists_byte h₂
  obtain ⟨b₃, e₃⟩ := exists_byte h₃
  refine ⟨.bytes b₀ b₁ b₂ b₃, ?_⟩
  rw [Code.text_bytes_append, e₀, dropChar?_eq_some s₁, e₁, dropChar?_eq_some s₂, e₂,
    dropChar?_eq_some s₃, e₃]

theorem exists_code {cs rest : List Char} (h : dropCode? cs = some rest) :
    ∃ (code : Code) (gap : Gap), cs = code.text ++ (gap.chars ++ rest) := by
  obtain ⟨after, ha, hb⟩ := Option.bind_eq_some_iff.mp h
  obtain ⟨gap, rfl⟩ := exists_gap hb
  rcases Option.or_eq_some_iff.mp ha with hw | ⟨_, hbytes⟩
  · obtain ⟨ds, he, hlen, hhex⟩ := exists_of_dropHex? hw
    refine ⟨.word ds hlen hhex, gap, ?_⟩
    rw [he, Code.text, Code.first, Code.further, List.append_nil]
  · obtain ⟨code, hc⟩ := exists_bytes hbytes
    exact ⟨code, gap, hc⟩

theorem exists_operation {address cs : List Char} {f : Fields}
    (h : operation? address cs = some f) : ∃ op : Operation, cs = op.text := by
  cases cs with
  | nil => cases h
  | cons c cs =>
    cases hc : c.isAlpha with
    | false =>
      rw [operation?_of_stops address (stops_cons hc cs)] at h
      cases h
    | true =>
      have hm := isMnemonicChar_of_isAlpha hc
      refine ⟨⟨⟨c, cs.takeWhile isMnemonicChar, hc, List.all_eq_true.mp List.all_takeWhile⟩,
        cs.dropWhile isMnemonicChar, stops_dropWhile _ cs⟩, ?_⟩
      show c :: cs = c :: (cs.takeWhile isMnemonicChar ++ cs.dropWhile isMnemonicChar)
      rw [List.takeWhile_append_dropWhile]

theorem exists_behind {address body : List Char} {f : Fields}
    (h : ((dropCode? body).bind (operation? address)).or (operation? address body) = some f) :
    ∃ (op : Operation) (code : Option (Code × Gap)), body = op.behind code := by
  rcases Option.or_eq_some_iff.mp h with hc | ⟨_, ho⟩
  · obtain ⟨rest, hd, ho⟩ := Option.bind_eq_some_iff.mp hc
    obtain ⟨code, gap, he⟩ := exists_code hd
    obtain ⟨op, rfl⟩ := exists_operation ho
    exact ⟨op, some (code, gap), he⟩
  · obtain ⟨op, he⟩ := exists_operation ho
    exact ⟨op, none, he⟩

/-- the layout from the first digit of the address on -/
theorem exists_colonLine_of_digits (signed : Bool) {indent digits : List Char} {f : Fields}
    (hi : ∀ c ∈ indent, isBlank c = true)
    (h : (if (digits.takeWhile isHex).isEmpty then none
      else (dropChar? ':' (digits.dropWhile isHex)).bind fun rest =>
        (dropBlanks? rest).bind fun body =>
          ((dropCode? body).bind (operation? (digits.takeWhile isHex))).or
            (operation? (digits.takeWhile isHex) body)) = some f) :
    ∃ l : ColonLine, l.text = indent ++ (sign signed ++ digits) := by
  split at h
  · cases h
  · next hne =>
    obtain ⟨rest, hcolon, h⟩ := Option.bind_eq_some_iff.mp h
    obtain ⟨body, hb, h⟩ := Option.bind_eq_some_iff.mp h
    obtain ⟨gap, hgap⟩ := exists_gap hb
    obtain ⟨op, code, hbody⟩ := exists_behind h
    have hne : digits.takeWhile isHex ≠ [] := fun he => hne (by rw [he]; rfl)
    refine ⟨⟨indent, hi, signed, ⟨_, hne, List.all_eq_true.mp List.all_takeWhile⟩, gap, code, op⟩, ?_⟩
    show indent ++ (sign signed
      ++ (digits.takeWhile isHex ++ ':' :: (gap.chars ++ op.behind code))) = _
    rw [← hbody, ← hgap, ← dropChar?_eq_some hcolon, List.takeWhile_append_dropWhile]

/-- **A line that is read with a colon has a layout.** -/
theorem exists_colonLine {cs : List Char} {f : Fields} (h : colonFields? cs = some f) :
    ∃ l : ColonLine, l.text = cs := by
  have hi : ∀ c ∈ cs.takeWhile isBlank, isBlank c = true := List.all_eq_true.mp List.all_takeWhile
  have hcs : cs.takeWhile isBlank ++ cs.dropWhile isBlank = cs := List.takeWhile_append_dropWhile
  unfold colonFields? at h
  dsimp only at h
  split at h
  · next digits he =>
    rw [he] at hcs
    rw [← hcs]
    exact exists_colonLine_of_digits true hi h
  · rw [← hcs]
    exact exists_colonLine_of_digits false hi h

theorem exists_bareLine {cs : List Char} {f : Fields} (h : bareFields? cs = some f) :
    ∃ l : BareLine, l.text = cs := by
  unfold bareFields? at h
  simp only [Bool.or_eq_true, decide_eq_true_eq] at h
  split at h
  · cases h
  · next hlen =>
    obtain ⟨body, hb, hop⟩ := Option.bind_eq_some_iff.mp h
    obtain ⟨gap, hgap⟩ := exists_gap hb
    obtain ⟨op, rfl⟩ := exists_operation hop
    have hne : cs.takeWhile isHex ≠ [] := by
      intro he
      rw [he] at hlen
      simp at hlen
    have h8 : 8 ≤ (cs.takeWhile isHex).length := by omega
    have h16 : (cs.takeWhile isHex).length ≤ 16 := by omega
    refine ⟨⟨⟨_, hne, List.all_eq_true.mp List.all_takeWhile⟩, h8, h16, gap, op⟩, ?_⟩
    show cs.takeWhile isHex ++ (gap.chars ++ op.text) = cs
    rw [← hgap, List.takeWhile_append_dropWhile]

/-! ## What has a layout is read -/

/-- what an operation behind an address is read as -/
def Operation.fields (op : Operation) (address : HexRun) : Fields :=
  ⟨address.digits, op.mnemonic.text, op.rest.dropWhile isBlank⟩

theorem operation?_text (address : HexRun) (op : Operation) (hn : '\n' ∉ op.text) :
    operation? address.digits op.text = some (op.fields address) := by
  have hrest : '\n' ∉ op.rest := fun h => hn (List.mem_append_right _ h)
  exact operation?_mnemonic address.digits op.mnemonic op.ends hrest

theorem dropCode?_behind (op : Operation) (code : Code) (gap : Gap) :
    dropCode? (op.behind (some (code, gap))) = some op.text :=
  dropCode?_code code gap.ne_nil gap.blank op.stops_blank

theorem colonFields?_text (l : ColonLine) :
    colonFields? l.text = ((dropCode? (l.operation.behind l.code)).bind
      (operation? l.address.digits)).or (operation? l.address.digits (l.operation.behind l.code)) :=
  colonFields?_signed l.signed l.address l.blank l.gap.ne_nil l.gap.blank
    (l.operation.stops_blank_behind l.code)

theorem Gap.stops_hex (gap : Gap) (rest : List Char) : Stops isHex (gap.chars ++ rest) := by
  obtain ⟨c, cs, hc⟩ := List.exists_cons_of_ne_nil gap.ne_nil
  have hb := gap.blank c (by rw [hc]; simp)
  rw [hc]
  exact stops_cons (isHex_of_isBlank hb) _

theorem bareFields?_text (l : BareLine) :
    bareFields? l.text = operation? l.address.digits l.operation.text := by
  have hs := l.gap.stops_hex l.operation.text
  have hlen : (decide (l.address.digits.length < 8) || decide (16 < l.address.digits.length))
      = false := by
    have h8 := l.eight_le
    have h16 := l.le_sixteen
    simp only [Bool.or_eq_false_iff, decide_eq_false_iff_not]
    omega
  unfold bareFields? BareLine.text
  simp only [takeWhile_run l.address.hex hs, dropWhile_run l.address.hex hs, hlen,
    dropBlanks?_run l.gap.ne_nil l.gap.blank l.operation.stops_blank]
  rfl

end MacroFusion.Line
