import Mathlib.Logic.ExistsUnique
import MacroFusion.Proofs.Listing.Layout

/-!
# Headings: the grammar of header lines

A HEADING is a header line with all its parts apart and without the blanks at its end, in one of two
forms:

    address gap bracket name bracket ':'        name ':'

Between brackets, which are angular or square, a name is any text, with brackets and colons of its own
if it likes.  The reader takes the brackets at the two ends, so it has no choice: a line has one heading
at most.

* `bracketed?_eq_some_iff`   a name in brackets is all that there is between the two ends;
* `symbolName?_text`, `labelName?_text`   what has a heading is read as the name in it;
* `exists_symbolHeading`, `exists_labelHeading`   what a reader accepts has a heading;
* `Heading.text_inj`         no two headings have one text;
* `headerName?_grammar`      all of it together.
-/

namespace MacroFusion.Line

open Text

/-! ## Parts -/

/-- the kinds of brackets around a name -/
inductive Bracket where
  | angular | square
  deriving DecidableEq, Repr

namespace Bracket

def opening : Bracket → Char
  | angular => '<'
  | square => '['

def closing : Bracket → Char
  | angular => '>'
  | square => ']'

theorem opening_inj {b₁ b₂ : Bracket} (h : b₁.opening = b₂.opening) : b₁ = b₂ := by
  revert h
  cases b₁ <;> cases b₂ <;> decide

theorem isBlank_opening (b : Bracket) : isBlank b.opening = false := by
  cases b <;> decide

end Bracket

/-- an address, and a name in brackets -/
@[ext] structure SymbolHeading where
  address : HexRun
  gap : Gap
  bracket : Bracket
  name : List Char
  ne_nil : name ≠ []

/-- a name alone, without blanks and colons -/
@[ext] structure LabelHeading where
  name : List Char
  ne_nil : name ≠ []
  not_blank : ∀ c ∈ name, isBlank c = false
  not_colon : ∀ c ∈ name, c ≠ ':'

/-- a header line in one of the two forms -/
inductive Heading where
  | symbol (h : SymbolHeading)
  | label (h : LabelHeading)

namespace SymbolHeading

/-- the name with its brackets, and the colon -/
def enclosed (h : SymbolHeading) : List Char :=
  h.bracket.opening :: (h.name ++ [h.bracket.closing, ':'])

def text (h : SymbolHeading) : List Char := h.address.digits ++ (h.gap.chars ++ h.enclosed)

theorem stops_enclosed (h : SymbolHeading) : Stops isBlank h.enclosed :=
  stops_cons h.bracket.isBlank_opening _

end SymbolHeading

def LabelHeading.text (h : LabelHeading) : List Char := h.name ++ [':']

namespace Heading

def text : Heading → List Char
  | symbol h => h.text
  | label h => h.text

def name : Heading → List Char
  | symbol h => h.name
  | label h => h.name

theorem name_ne_nil (h : Heading) : h.name ≠ [] := by
  cases h with
  | symbol h => exact h.ne_nil
  | label h => exact h.ne_nil

end Heading

/-! ## What has a heading is read -/

/-- **A name in brackets** is what is between the two ends, whatever it holds. -/
theorem bracketed?_eq_some_iff {opening closing : Char} {cs name : List Char} :
    bracketed? opening closing cs = some name
      ↔ cs = opening :: (name ++ [closing, ':']) ∧ name ≠ [] ∧ '\n' ∉ name := by
  constructor
  · intro h
    cases cs with
    | nil => cases h
    | cons c rest =>
      by_cases hc : c = opening
      · simp only [bracketed?, hc, ne_eq, not_true_eq_false, if_false] at h
        split at h
        · next d reversed hrev =>
          simp only [Bool.and_eq_true, decide_eq_true_eq, Bool.not_eq_true',
            List.isEmpty_eq_false_iff, List.contains_eq_mem, decide_eq_false_iff_not,
            Option.ite_none_right_eq_some, Option.some.injEq] at h
          obtain ⟨⟨⟨hd, hne⟩, hn⟩, rfl⟩ := h
          have hrest : rest = reversed.reverse ++ [d, ':'] := by
            rw [← List.reverse_reverse rest, hrev]
            simp
          rw [hc, hrest, hd]
          exact ⟨rfl, fun he => hne (List.reverse_eq_nil_iff.mp he),
            fun hm => hn (List.mem_reverse.mp hm)⟩
        · cases h
      · simp [bracketed?, hc] at h
  · rintro ⟨rfl, hne, hn⟩
    have hrev : (name ++ [closing, ':']).reverse = ':' :: closing :: name.reverse := by simp
    simp [bracketed?, hrev, hne, hn]

/-- the two kinds of brackets are tried one after the other -/
theorem bracketed?_enclosed (h : SymbolHeading) (hn : '\n' ∉ h.name) :
    (bracketed? '<' '>' h.enclosed).or (bracketed? '[' ']' h.enclosed) = some h.name := by
  have hown : bracketed? h.bracket.opening h.bracket.closing h.enclosed = some h.name :=
    bracketed?_eq_some_iff.mpr ⟨rfl, h.ne_nil, hn⟩
  cases hb : h.bracket with
  | angular =>
    rw [hb] at hown
    rw [show bracketed? '<' '>' h.enclosed = _ from hown, Option.some_or]
  | square =>
    rw [hb] at hown
    have hother : bracketed? '<' '>' h.enclosed = none := by
      rw [SymbolHeading.enclosed, hb]
      rfl
    rw [hother, Option.none_or]
    exact hown

theorem symbolName?_text {cs : List Char} (h : SymbolHeading) (ht : h.text = trimEnd cs)
    (hn : '\n' ∉ cs) : symbolName? cs = some h.name := by
  have hname : '\n' ∉ h.name := by
    intro hm
    apply hn
    apply (isPrefix_trimEnd cs).subset
    rw [← ht]
    simp [SymbolHeading.text, SymbolHeading.enclosed, hm]
  have hhex := h.gap.stops_hex h.enclosed
  have haddress : h.address.digits.isEmpty = false := List.isEmpty_eq_false_iff.mpr h.address.ne_nil
  have hgap : h.gap.chars.isEmpty = false := List.isEmpty_eq_false_iff.mpr h.gap.ne_nil
  unfold symbolName?
  dsimp only
  rw [← ht, SymbolHeading.text, takeWhile_run h.address.hex hhex, dropWhile_run h.address.hex hhex,
    takeWhile_run h.gap.blank h.stops_enclosed, dropWhile_run h.gap.blank h.stops_enclosed, haddress,
    hgap, bracketed?_enclosed h hname]
  rfl

/-- the class of characters that a label is made of -/
theorem LabelHeading.in_class (h : LabelHeading) :
    ∀ c ∈ h.name, (!isBlank c && c != ':') = true := by
  intro c hc
  simp [h.not_blank c hc, h.not_colon c hc]

theorem labelName?_text {cs : List Char} (h : LabelHeading) (ht : h.text = trimEnd cs) :
    labelName? cs = some h.name := by
  have hcolon : Stops (fun c => !isBlank c && c != ':') [':'] := stops_cons (by decide) _
  have hempty : h.name.isEmpty = false := List.isEmpty_eq_false_iff.mpr h.ne_nil
  unfold labelName?
  dsimp only
  rw [← ht, LabelHeading.text, takeWhile_run h.in_class hcolon, dropWhile_run h.in_class hcolon, hempty]
  rfl

/-! ## What is read has a heading -/

theorem exists_symbolHeading {cs name : List Char} (h : symbolName? cs = some name) :
    ∃ s : SymbolHeading, s.text = trimEnd cs ∧ s.name = name := by
  unfold symbolName? at h
  simp only [Bool.or_eq_true] at h
  split at h
  · cases h
  · next hne =>
    rw [not_or, List.isEmpty_iff, List.isEmpty_iff] at hne
    have henclosed : ∃ bracket : Bracket, ((trimEnd cs).dropWhile isHex).dropWhile isBlank
        = bracket.opening :: (name ++ [bracket.closing, ':']) ∧ name ≠ [] := by
      rcases Option.or_eq_some_iff.mp h with h | ⟨_, h⟩
      · obtain ⟨he, hname, _⟩ := bracketed?_eq_some_iff.mp h
        exact ⟨.angular, he, hname⟩
      · obtain ⟨he, hname, _⟩ := bracketed?_eq_some_iff.mp h
        exact ⟨.square, he, hname⟩
    obtain ⟨bracket, he, hname⟩ := henclosed
    refine ⟨⟨⟨_, hne.1, List.all_eq_true.mp List.all_takeWhile⟩,
      ⟨_, hne.2, List.all_eq_true.mp List.all_takeWhile⟩, bracket, name, hname⟩, ?_, rfl⟩
    show (trimEnd cs).takeWhile isHex ++ (((trimEnd cs).dropWhile isHex).takeWhile isBlank
      ++ bracket.opening :: (name ++ [bracket.closing, ':'])) = trimEnd cs
    rw [← he, List.takeWhile_append_dropWhile, List.takeWhile_append_dropWhile]

theorem exists_labelHeading {cs name : List Char} (h : labelName? cs = some name) :
    ∃ l : LabelHeading, l.text = trimEnd cs ∧ l.name = name := by
  unfold labelName? at h
  simp only [Bool.and_eq_true, Bool.not_eq_true', List.isEmpty_eq_false_iff, beq_iff_eq] at h
  split at h
  · next hl =>
    obtain ⟨hne, hcolon⟩ := hl
    have hname := Option.some.inj h
    have hclass : ∀ c ∈ (trimEnd cs).takeWhile (fun c => !isBlank c && c != ':'),
        isBlank c = false ∧ c ≠ ':' := by
      intro c hc
      simpa using List.all_eq_true.mp List.all_takeWhile c hc
    refine ⟨⟨_, hne, fun c hc => (hclass c hc).1, fun c hc => (hclass c hc).2⟩, ?_, hname⟩
    show (trimEnd cs).takeWhile (fun c => !isBlank c && c != ':') ++ [':'] = trimEnd cs
    rw [← hcolon, List.takeWhile_append_dropWhile]
  · cases h

/-! ## One heading -/

/-- a name in brackets ends before the last two characters, so it is not cut short by brackets of its
own -/
theorem SymbolHeading.text_inj {h₁ h₂ : SymbolHeading} (h : h₁.text = h₂.text) : h₁ = h₂ := by
  obtain ⟨haddress, h⟩ := run_unique h₁.address.hex h₂.address.hex (h₁.gap.stops_hex _)
    (h₂.gap.stops_hex _) h
  obtain ⟨hgap, h⟩ := run_unique h₁.gap.blank h₂.gap.blank h₁.stops_enclosed h₂.stops_enclosed h
  obtain ⟨hopening, h⟩ := List.cons.inj h
  have hbracket := Bracket.opening_inj hopening
  rw [hbracket] at h
  exact SymbolHeading.ext (HexRun.ext haddress) (Gap.ext hgap) hbracket (List.append_cancel_right h)

theorem LabelHeading.text_inj {h₁ h₂ : LabelHeading} (h : h₁.text = h₂.text) : h₁ = h₂ :=
  LabelHeading.ext (List.append_cancel_right h)

/-- a label has no blank, and a symbol has a gap -/
theorem SymbolHeading.text_ne (h₁ : SymbolHeading) (h₂ : LabelHeading) : h₁.text ≠ h₂.text := by
  intro he
  obtain ⟨c, cs, hc⟩ := List.exists_cons_of_ne_nil h₁.gap.ne_nil
  have hgap : c ∈ h₁.gap.chars := by
    rw [hc]
    exact List.mem_cons_self
  have hblank := h₁.gap.blank c hgap
  have hmem : c ∈ h₂.text := by
    rw [← he]
    exact List.mem_append_right _ (List.mem_append_left _ hgap)
  rcases List.mem_append.mp hmem with hname | hcolon
  · rw [h₂.not_blank c hname] at hblank
    cases hblank
  · rw [List.mem_singleton.mp hcolon] at hblank
    exact absurd hblank (by decide)

namespace Heading

/-- **No two headings have one text.** -/
theorem text_inj {h₁ h₂ : Heading} (h : h₁.text = h₂.text) : h₁ = h₂ := by
  cases h₁ with
  | symbol s₁ =>
    cases h₂ with
    | symbol s₂ => rw [SymbolHeading.text_inj h]
    | label l₂ => exact absurd h (s₁.text_ne l₂)
  | label l₁ =>
    cases h₂ with
    | symbol s₂ => exact absurd h.symm (s₂.text_ne l₁)
    | label l₂ => rw [LabelHeading.text_inj h]

/-- a heading begins with a digit or with the first character of a label -/
theorem exists_cons_text (h : Heading) : ∃ c cs, h.text = c :: cs ∧ isBlank c = false := by
  cases h with
  | symbol h =>
    obtain ⟨c, cs, hc⟩ := List.exists_cons_of_ne_nil h.address.ne_nil
    refine ⟨c, cs ++ (h.gap.chars ++ h.enclosed), ?_, ?_⟩
    · show h.address.digits ++ _ = _
      rw [hc, List.cons_append]
    · exact isBlank_of_isHex (h.address.hex c (by rw [hc]; exact List.mem_cons_self))
  | label h =>
    obtain ⟨c, cs, hc⟩ := List.exists_cons_of_ne_nil h.ne_nil
    refine ⟨c, cs ++ [':'], ?_, ?_⟩
    · show h.name ++ _ = _
      rw [hc, List.cons_append]
    · exact h.not_blank c (by rw [hc]; exact List.mem_cons_self)

/-- so a line that has one is not empty, and not indented -/
theorem unindented {h : Heading} {cs : List Char} (ht : h.text = trimEnd cs) :
    cs ≠ [] ∧ Stops isBlank cs := by
  obtain ⟨c, ds, hc, hblank⟩ := h.exists_cons_text
  obtain ⟨blanks, hcs, _⟩ := exists_trimEnd_append cs
  rw [← ht, hc, List.cons_append] at hcs
  rw [hcs]
  exact ⟨List.cons_ne_nil _ _, stops_cons hblank _⟩

end Heading

theorem headerName?_text {cs : List Char} {h : Heading} (ht : h.text = trimEnd cs) (hn : '\n' ∉ cs) :
    headerName? cs = some h.name := by
  cases h with
  | symbol s =>
    rw [headerName?, symbolName?_text s ht hn]
    rfl
  | label l =>
    -- the reader tries symbols first, and would have found a heading of the other form
    have hsymbol : symbolName? cs = none := by
      rw [Option.eq_none_iff_forall_ne_some]
      intro name hs
      obtain ⟨s, hst, _⟩ := exists_symbolHeading hs
      exact s.text_ne l (hst.trans ht.symm)
    rw [headerName?, hsymbol, Option.none_or, labelName?_text l ht]
    rfl

theorem exists_heading {cs name : List Char} (h : headerName? cs = some name) :
    ∃ heading : Heading, heading.text = trimEnd cs ∧ heading.name = name := by
  rcases Option.or_eq_some_iff.mp h with h | ⟨_, h⟩
  · obtain ⟨s, hs⟩ := exists_symbolHeading h
    exact ⟨.symbol s, hs⟩
  · obtain ⟨l, hl⟩ := exists_labelHeading h
    exact ⟨.label l, hl⟩

/-- **Header lines are just those of the grammar, and their names are unique.**  A text without a line
feed is read as a header if and only if it is not empty, does not begin with a blank, and is a heading
once the blanks at its end are gone.  There is then just one such heading, and the name that is read is
the one in it, which is never empty. -/
theorem headerName?_grammar (cs : List Char) (hn : '\n' ∉ cs) :
    ((headerName? cs).isSome = true
      ↔ cs ≠ [] ∧ Stops isBlank cs ∧ ∃ h : Heading, h.text = trimEnd cs)
    ∧ ((∃ h : Heading, h.text = trimEnd cs) → ∃! h : Heading, h.text = trimEnd cs)
    ∧ ∀ h : Heading, h.text = trimEnd cs → headerName? cs = some h.name ∧ h.name ≠ [] := by
  refine ⟨⟨fun h => ?_, fun h => ?_⟩, fun h => ?_, fun h ht => ?_⟩
  · obtain ⟨name, hname⟩ := Option.isSome_iff_exists.mp h
    obtain ⟨heading, ht, _⟩ := exists_heading hname
    obtain ⟨hne, hs⟩ := Heading.unindented ht
    exact ⟨hne, hs, heading, ht⟩
  · obtain ⟨_, _, heading, ht⟩ := h
    rw [headerName?_text ht hn]
    rfl
  · obtain ⟨heading, ht⟩ := h
    exact ⟨heading, ht, fun other ho => Heading.text_inj (ho.trans ht.symm)⟩
  · exact ⟨headerName?_text ht hn, h.name_ne_nil⟩

/-- The name holds the end of another name, its own kind of brackets and a whole heading. -/
theorem headerName?_grammar_nested :
    '\n' ∉ "1f \t<a]>: <b::c<int>>:>: \r".toList
    ∧ (∃! h : Heading, h.text = trimEnd "1f \t<a]>: <b::c<int>>:>: \r".toList)
    ∧ headerName? "1f \t<a]>: <b::c<int>>:>: \r".toList = some "a]>: <b::c<int>>:".toList := by
  have hn : '\n' ∉ "1f \t<a]>: <b::c<int>>:>: \r".toList := by decide
  have hname : headerName? "1f \t<a]>: <b::c<int>>:>: \r".toList = some "a]>: <b::c<int>>:".toList := by
    decide +kernel
  have h := headerName?_grammar _ hn
  have hsome := h.1.mp (by rw [hname]; rfl)
  exact ⟨hn, h.2.1 hsome.2.2, hname⟩

end MacroFusion.Line
