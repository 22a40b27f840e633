import MacroFusion.Proofs.Text.Lines
import MacroFusion.Proofs.Text.Runs

/-!
# Columns: an instruction line, part by part

An instruction line with a colon is made of columns: the address, maybe machine code, the mnemonic and
the operands, with blanks between them.  Here every reader of a column is run on a line that was put
together from its columns.

* `HexRun`, `HexByte`, `Code`   the columns that hold digits, with the proof that they do;
* `colonFields?_columns`        behind the address and its colon there are two readings: one that drops
                                machine code, and, if that one fails, one that does not;
* `dropCode?_code`              machine code is dropped as a whole;
* `dropCode?_mnemonic`          a mnemonic is not dropped, unless it is eight hexadecimal digits;
* `operation?_mnemonic`         a mnemonic and operands are read as they stand.
-/

namespace MacroFusion.Line

open Text

/-! ## Digits -/

/-- hexadecimal digits, at least one -/
@[ext] structure HexRun where
  digits : List Char
  ne_nil : digits ≠ []
  hex : ∀ c ∈ digits, isHex c = true

/-- two hexadecimal digits -/
@[ext] structure HexByte where
  high : Char
  low : Char
  high_hex : isHex high = true
  low_hex : isHex low = true

/-- machine code, as one word or byte by byte -/
inductive Code where
  | word (digits : List Char) (length_eq : digits.length = 8) (hex : ∀ c ∈ digits, isHex c = true)
  | bytes (b₀ b₁ b₂ b₃ : HexByte)

theorem unbroken_of_isHex {cs : List Char} (h : ∀ c ∈ cs, isHex c = true) : Unbroken cs :=
  fun c hc => isLineBreak_of_isHex (h c hc)

namespace HexByte

def text (b : HexByte) : List Char := [b.high, b.low]

theorem hex (b : HexByte) : ∀ c ∈ b.text, isHex c = true := by
  intro c hc
  rcases List.mem_cons.mp hc with rfl | hc
  · exact b.high_hex
  · rw [List.mem_singleton.mp hc]
    exact b.low_hex

end HexByte

namespace Code

/-- the digits up to the first space -/
def first : Code → List Char
  | word digits _ _ => digits
  | bytes b₀ _ _ _ => b₀.text

/-- what comes after them: nothing, or three bytes with a space before each -/
def further : Code → List Char
  | word _ _ _ => []
  | bytes _ b₁ b₂ b₃ => ' ' :: b₁.text ++ ' ' :: b₂.text ++ ' ' :: b₃.text

def text (code : Code) : List Char := code.first ++ code.further

theorem text_bytes_append (b₀ b₁ b₂ b₃ : HexByte) (rest : List Char) :
    (bytes b₀ b₁ b₂ b₃).text ++ rest
      = b₀.text ++ ' ' :: (b₁.text ++ ' ' :: (b₂.text ++ ' ' :: (b₃.text ++ rest))) := by
  simp [text, first, further]

theorem hex_first (code : Code) : ∀ c ∈ code.first, isHex c = true := by
  cases code with
  | word digits _ hex => exact hex
  | bytes b₀ _ _ _ => exact b₀.hex

theorem unbroken_further (code : Code) : Unbroken code.further := by
  have hsp : isLineBreak ' ' = false := by decide
  have hb : ∀ b : HexByte, Unbroken (' ' :: b.text) :=
    fun b => unbroken_cons_iff.mpr ⟨hsp, unbroken_of_isHex b.hex⟩
  cases code with
  | word _ _ _ => exact unbroken_nil
  | bytes _ b₁ b₂ b₃ =>
    rw [further, unbroken_append_iff, unbroken_append_iff]
    exact ⟨⟨hb b₁, hb b₂⟩, hb b₃⟩

theorem unbroken_text (code : Code) : Unbroken code.text :=
  unbroken_append_iff.mpr ⟨unbroken_of_isHex code.hex_first, code.unbroken_further⟩

theorem first_ne_nil (code : Code) : code.first ≠ [] := by
  cases code with
  | word digits length_eq _ =>
    intro he
    have he' : digits = [] := he
    rw [he'] at length_eq
    cases length_eq
  | bytes b₀ _ _ _ => exact List.cons_ne_nil _ _

theorem stops_blank (code : Code) (rest : List Char) : Stops isBlank (code.text ++ rest) := by
  obtain ⟨d, ds, hd⟩ := List.exists_cons_of_ne_nil code.first_ne_nil
  have hh := code.hex_first d (by rw [hd]; simp)
  rw [text, hd]
  exact stops_cons (isBlank_of_isHex hh) _

end Code

theorem dropHex?_run {ds : List Char} (h : ∀ c ∈ ds, isHex c = true) (rest : List Char) :
    dropHex? ds.length (ds ++ rest) = some rest := by
  induction ds with
  | nil => rfl
  | cons d ds ih =>
    have hd := h d List.mem_cons_self
    show (if isHex d then dropHex? ds.length (ds ++ rest) else none) = _
    rw [hd, if_pos rfl, ih fun c hc => h c (List.mem_cons_of_mem _ hc)]

/-- what is dropped are just so many digits -/
theorem exists_of_dropHex? {n : Nat} {cs rest : List Char} (h : dropHex? n cs = some rest) :
    ∃ ds, cs = ds ++ rest ∧ ds.length = n ∧ ∀ c ∈ ds, isHex c = true := by
  induction n generalizing cs with
  | zero =>
    have e : cs = rest := Option.some.inj h
    exact ⟨[], e, rfl, by simp⟩
  | succ n ih =>
    cases cs with
    | nil => cases h
    | cons c cs =>
      cases hc : isHex c with
      | false => simp [dropHex?, hc] at h
      | true =>
        have h' : dropHex? n cs = some rest := by simpa [dropHex?, hc] using h
        obtain ⟨ds, rfl, hlen, hds⟩ := ih h'
        refine ⟨c :: ds, rfl, by rw [List.length_cons, hlen], ?_⟩
        intro d hd
        rcases List.mem_cons.mp hd with rfl | hd
        · exact hc
        · exact hds d hd

theorem dropBlanks?_run {gap rest : List Char} (hne : gap ≠ []) (hg : ∀ c ∈ gap, isBlank c = true)
    (hs : Stops isBlank rest) : dropBlanks? (gap ++ rest) = some rest := by
  cases gap with
  | nil => exact absurd rfl hne
  | cons c gap =>
    have hc := hg c List.mem_cons_self
    show (if isBlank c then some ((gap ++ rest).dropWhile isBlank) else none) = _
    rw [hc, if_pos rfl, dropWhile_run (fun d hd => hg d (List.mem_cons_of_mem _ hd)) hs]

theorem dropBlanks?_of_stops {cs : List Char} (h : Stops isBlank cs) : dropBlanks? cs = none := by
  cases cs with
  | nil => rfl
  | cons c cs =>
    have hc : isBlank c = false := h c rfl
    show (if isBlank c then some (cs.dropWhile isBlank) else none) = _
    rw [hc]
    rfl

/-! ## Machine code -/

theorem dropHex?_byte (b : HexByte) (rest : List Char) : dropHex? 2 (b.text ++ rest) = some rest :=
  dropHex?_run b.hex rest

theorem dropCodeBytes?_bytes (b₀ b₁ b₂ b₃ : HexByte) (rest : List Char) :
    dropCodeBytes? (b₀.text ++ ' ' :: (b₁.text ++ ' ' :: (b₂.text ++ ' ' :: (b₃.text ++ rest))))
      = some rest := by
  have hc : ∀ cs, dropChar? ' ' (' ' :: cs) = some cs := fun cs => rfl
  simp only [dropCodeBytes?, Option.bind_eq_bind, dropHex?_byte, hc, Option.bind_some]

/-- the space after the first byte ends what could be a word -/
theorem dropCodeWord?_byte (b : HexByte) (rest : List Char) :
    dropCodeWord? (b.text ++ ' ' :: rest) = none := by
  have hsp : isHex ' ' = false := by decide
  show dropHex? 8 (b.high :: b.low :: ' ' :: rest) = none
  simp only [dropHex?, b.high_hex, b.low_hex, hsp]
  rfl

theorem dropCode?_code (code : Code) {gap rest : List Char} (hne : gap ≠ [])
    (hg : ∀ c ∈ gap, isBlank c = true) (hs : Stops isBlank rest) :
    dropCode? (code.text ++ (gap ++ rest)) = some rest := by
  have hb := dropBlanks?_run hne hg hs
  cases code with
  | word digits length_eq hex =>
    have hw : dropCodeWord? (digits ++ (gap ++ rest)) = some (gap ++ rest) := by
      rw [dropCodeWord?, ← length_eq, dropHex?_run hex]
    show ((dropCodeWord? (digits ++ [] ++ (gap ++ rest))).or _).bind dropBlanks? = _
    rw [List.append_nil, hw]
    exact hb
  | bytes b₀ b₁ b₂ b₃ =>
    rw [Code.text_bytes_append, dropCode?, dropCodeWord?_byte, Option.none_or,
      dropCodeBytes?_bytes]
    exact hb

/-! ## Mnemonics and operands -/

/-- a letter, and characters of a mnemonic after it -/
@[ext] structure Mnemonic where
  initial : Char
  others : List Char
  letter : initial.isAlpha = true
  word : ∀ c ∈ others, isMnemonicChar c = true

namespace Mnemonic

def text (m : Mnemonic) : List Char := m.initial :: m.others

theorem word_text (m : Mnemonic) : ∀ c ∈ m.text, isMnemonicChar c = true := by
  intro c hc
  rcases List.mem_cons.mp hc with rfl | hc
  · exact isMnemonicChar_of_isAlpha m.letter
  · exact m.word c hc

theorem stops_blank (m : Mnemonic) (rest : List Char) : Stops isBlank (m.text ++ rest) :=
  stops_cons (isBlank_of_isAlpha m.letter) _

/-- eight hexadecimal digits, so that it could be machine code -/
def LooksLikeCode (m : Mnemonic) : Prop := m.text.length = 8 ∧ ∀ c ∈ m.text, isHex c = true

instance (m : Mnemonic) : Decidable m.LooksLikeCode :=
  decidable_of_iff (m.text.length = 8 ∧ m.text.all isHex = true) (by rw [List.all_eq_true]; rfl)

end Mnemonic

theorem operation?_of_letter (address : List Char) {c : Char} {cs : List Char}
    (hc : c.isAlpha = true) (hn : '\n' ∉ c :: cs) :
    operation? address (c :: cs) = some ⟨address, (c :: cs).takeWhile isMnemonicChar,
      ((c :: cs).dropWhile isMnemonicChar).dropWhile isBlank⟩ := by
  have hsub : (((c :: cs).dropWhile isMnemonicChar).dropWhile isBlank).dropLast ⊆ c :: cs :=
    fun d hd => (List.dropWhile_subset _) ((List.dropWhile_subset _) ((List.dropLast_subset _) hd))
  have hno : (((c :: cs).dropWhile isMnemonicChar).dropWhile isBlank).dropLast.contains '\n'
      = false := by
    rw [List.contains_eq_mem, decide_eq_false_iff_not]
    exact fun h => hn (hsub h)
  rw [operation?]
  simp only [hc, hno, Bool.not_true, Bool.false_eq_true, if_false]

theorem operation?_of_stops (address : List Char) {cs : List Char} (h : Stops Char.isAlpha cs) :
    operation? address cs = none := by
  cases cs with
  | nil => rfl
  | cons c cs =>
    have hc : c.isAlpha = false := h c rfl
    rw [operation?]
    simp only [hc, Bool.not_false, if_true]

/-- a mnemonic is read up to its end, and the operands from the first character that is not blank -/
theorem operation?_mnemonic (address : List Char) (m : Mnemonic) {rest : List Char}
    (hs : Stops isMnemonicChar rest) (hn : '\n' ∉ rest) :
    operation? address (m.text ++ rest) = some ⟨address, m.text, rest.dropWhile isBlank⟩ := by
  have hm : '\n' ∉ m.text ++ rest := by
    rw [List.mem_append, not_or]
    refine ⟨fun h => ?_, hn⟩
    have := isLineBreak_of_isMnemonicChar (m.word_text _ h)
    exact absurd this (by decide)
  have h : operation? address (m.text ++ rest)
      = some ⟨address, (m.text ++ rest).takeWhile isMnemonicChar,
        ((m.text ++ rest).dropWhile isMnemonicChar).dropWhile isBlank⟩ :=
    operation?_of_letter address m.letter hm
  rw [takeWhile_run m.word_text hs, dropWhile_run m.word_text hs] at h
  exact h

/-- digits dropped from a mnemonic are all of it, or a character of it comes after them -/
theorem mnemonic_of_dropHex? (m : Mnemonic) {n : Nat} {rest after : List Char}
    (h : dropHex? n (m.text ++ '\t' :: rest) = some after) :
    (m.text.length = n ∧ (∀ c ∈ m.text, isHex c = true) ∧ after = '\t' :: rest)
      ∨ ∃ b bs, after = b :: bs ∧ isMnemonicChar b = true := by
  obtain ⟨ds, he, hlen, hds⟩ := exists_of_dropHex? h
  have htab : isHex '\t' = false := by decide
  rcases List.append_eq_append_iff.mp he with ⟨as, hm, ht⟩ | ⟨bs, hm, ht⟩
  · cases as with
    | nil =>
      rw [List.append_nil] at hm
      exact Or.inl ⟨hm ▸ hlen, hm ▸ hds, ht.symm⟩
    | cons a as =>
      -- the digits would go on past the tab
      have ha : a = '\t' := (List.cons.inj ht).1.symm
      have hh := hds a (by rw [hm]; simp)
      rw [ha, htab] at hh
      cases hh
  · cases bs with
    | nil =>
      rw [List.append_nil] at hm
      exact Or.inl ⟨hm ▸ hlen, hm ▸ hds, ht⟩
    | cons b bs => exact Or.inr ⟨b, bs ++ '\t' :: rest, ht, m.word_text b (by rw [hm]; simp)⟩

/-- **A mnemonic is not dropped as machine code**, as long as it does not look like it. -/
theorem dropCode?_mnemonic (m : Mnemonic) (h : ¬ m.LooksLikeCode) (rest : List Char) :
    dropCode? (m.text ++ '\t' :: rest) = none := by
  have hbytes : dropCodeBytes? (m.text ++ '\t' :: rest) = none := by
    cases hd : dropHex? 2 (m.text ++ '\t' :: rest) with
    | none => simp [dropCodeBytes?, hd]
    | some after =>
      have hafter : dropChar? ' ' after = none := by
        rcases mnemonic_of_dropHex? m hd with ⟨_, _, rfl⟩ | ⟨b, bs, rfl, hb⟩
        · rfl
        · apply if_neg
          intro hsp
          rw [hsp] at hb
          exact absurd hb (by decide +kernel)
      simp [dropCodeBytes?, hd, hafter]
  rw [dropCode?, hbytes, Option.or_none]
  cases hd : dropCodeWord? (m.text ++ '\t' :: rest) with
  | none => rfl
  | some after =>
    rcases mnemonic_of_dropHex? m hd with ⟨hlen, hhex, _⟩ | ⟨b, bs, rfl, hb⟩
    · exact absurd ⟨hlen, hhex⟩ h
    · show dropBlanks? (b :: bs) = none
      apply dropBlanks?_of_stops
      exact stops_cons (isBlank_of_isMnemonicChar hb) bs

/-! ## Whole lines -/

/-- hexadecimal digits with a colon after them do not begin with the sign of a hexadecimal number -/
theorem HexRun.ne_signed (a : HexRun) (cs rest : List Char) :
    a.digits ++ ':' :: cs ≠ '0' :: 'x' :: rest := by
  intro he
  have hx : isHex 'x' = false := by decide
  obtain ⟨digits, ne_nil, hex⟩ := a
  match digits, ne_nil, hex with
  | [_], _, _ => simp at he
  | _ :: d :: _, _, hex =>
    have hd : d = 'x' := by
      simp at he
      exact he.2.1
    have hh := hex d (by simp)
    rw [hd, hx] at hh
    cases hh

/-- the sign of a hexadecimal number, or nothing -/
def sign (signed : Bool) : List Char := if signed then ['0', 'x'] else []

theorem stops_blank_sign (signed : Bool) (a : HexRun) (rest : List Char) :
    Stops isBlank (sign signed ++ (a.digits ++ rest)) := by
  cases signed with
  | true => exact stops_cons (by decide) _
  | false =>
    obtain ⟨d, ds, hd⟩ := List.exists_cons_of_ne_nil a.ne_nil
    have hh := a.hex d (by rw [hd]; simp)
    show Stops isBlank (a.digits ++ rest)
    rw [hd]
    exact stops_cons (isBlank_of_isHex hh) _

/-- **The two readings of a line with a colon.** -/
theorem colonFields?_signed (signed : Bool) (a : HexRun) {indent gap body : List Char}
    (hi : ∀ c ∈ indent, isBlank c = true) (hne : gap ≠ []) (hg : ∀ c ∈ gap, isBlank c = true)
    (hb : Stops isBlank body) :
    colonFields? (indent ++ (sign signed ++ (a.digits ++ ':' :: (gap ++ body))))
      = ((dropCode? body).bind (operation? a.digits)).or (operation? a.digits body) := by
  have hcolon : Stops isHex (':' :: (gap ++ body)) := stops_cons (by decide) _
  have hempty : a.digits.isEmpty = false := List.isEmpty_eq_false_iff.mpr a.ne_nil
  unfold colonFields?
  rw [dropWhile_run hi (stops_blank_sign signed a _)]
  cases signed with
  | true =>
    simp only [sign, if_true, List.cons_append, List.nil_append, takeWhile_run a.hex hcolon,
      dropWhile_run a.hex hcolon, hempty]
    show (dropBlanks? (gap ++ body)).bind _ = _
    rw [dropBlanks?_run hne hg hb]
    rfl
  | false =>
    simp only [sign, Bool.false_eq_true, if_false, List.nil_append]
    split
    · next rest he => exact absurd he (a.ne_signed _ _)
    · simp only [takeWhile_run a.hex hcolon, dropWhile_run a.hex hcolon, hempty]
      show (dropBlanks? (gap ++ body)).bind _ = _
      rw [dropBlanks?_run hne hg hb]
      rfl

theorem colonFields?_columns (a : HexRun) {indent gap body : List Char}
    (hi : ∀ c ∈ indent, isBlank c = true) (hne : gap ≠ []) (hg : ∀ c ∈ gap, isBlank c = true)
    (hb : Stops isBlank body) :
    colonFields? (indent ++ (a.digits ++ ':' :: (gap ++ body)))
      = ((dropCode? body).bind (operation? a.digits)).or (operation? a.digits body) :=
  colonFields?_signed false a hi hne hg hb

/-- an indented line has a colon or no instruction at all -/
theorem fields?_of_indented {c : Char} (hc : isBlank c = true) (cs : List Char) :
    fields? (c :: cs) = colonFields? (c :: cs) := by
  have hbare : bareFields? (c :: cs) = none := by
    unfold bareFields?
    rw [takeWhile_of_stops (stops_cons (isHex_of_isBlank hc) cs)]
    rfl
  rw [fields?, hbare, Option.or_none]

/-- an indented line opens no function -/
theorem headerName?_of_indented {c : Char} (hc : isBlank c = true) (cs : List Char) :
    headerName? (c :: cs) = none := by
  have hsymbol : symbolName? (c :: cs) = none := by
    unfold symbolName?
    dsimp only
    rw [takeWhile_of_stops (stops_trimEnd (stops_cons (isHex_of_isBlank hc) cs))]
    rfl
  have hlabel : labelName? (c :: cs) = none := by
    have hs : Stops (fun c => !isBlank c && c != ':') (c :: cs) :=
      stops_cons (by rw [hc]; rfl) cs
    unfold labelName?
    dsimp only
    rw [takeWhile_of_stops (stops_trimEnd hs)]
    rfl
  rw [headerName?, hsymbol, hlabel]
  rfl

end MacroFusion.Line
