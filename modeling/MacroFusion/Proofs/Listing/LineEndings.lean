import MacroFusion.Files.Source
import MacroFusion.Listing.Basic
import MacroFusion.Web.Request

/-!
# Line endings: a translated text is the same listing

A file is read with its line endings TRANSLATED: a carriage return with its line feed becomes one line
feed, and so does every carriage return that is left.  A text that comes over the web is taken as it is.
A listing is the same either way, because a text is cut at a carriage return by itself, and one with its
line feed is one boundary.

* `joinPairs`, `translated`   the translation in two replacements, the pairs first;
* `unixBreaks_eq`             reading a file makes both in one pass;
* `lines_unixBreaks`          the lines of the translated text are the lines of the text;
* `read_translated`           so the two are read alike, faults and numbers of lines with them.
-/

namespace MacroFusion

namespace Text

/-- a line feed for every carriage return with a line feed after it -/
def joinPairs : List Char → List Char
  | '\r' :: '\n' :: cs => '\n' :: joinPairs cs
  | c :: cs => c :: joinPairs cs
  | [] => []

/-- a line feed in the place of a carriage return -/
def toLineFeed (c : Char) : Char := if c = '\r' then '\n' else c

/-- the text with a line feed for every carriage return with its line feed, and then for every other
carriage return -/
def translated (text : String) : String := String.ofList ((joinPairs text.toList).map toLineFeed)

theorem isAbsorbed_eq_true_iff {c : Char} {cs : List Char} :
    isAbsorbed c cs = true ↔ c = '\r' ∧ cs.head? = some '\n' := by
  simp [isAbsorbed]

/-- Both replacements are made in one pass. -/
theorem unixBreaks_eq (cs : List Char) : unixBreaks cs = (joinPairs cs).map toLineFeed := by
  fun_induction joinPairs cs with
  | case1 cs ih =>
    have hpair : isAbsorbed '\r' ('\n' :: cs) = true := rfl
    have hfeed : isAbsorbed '\n' cs = false := rfl
    rw [unixBreaks_cons, if_pos hpair, unixBreaks_cons, hfeed, ih]
    rfl
  | case2 c cs hpair ih =>
    have ha : ¬ isAbsorbed c cs = true := by
      intro ha
      obtain ⟨hc, hn⟩ := isAbsorbed_eq_true_iff.mp ha
      obtain ⟨rest, hrest⟩ := List.head?_eq_some_iff.mp hn
      exact hpair rest hc hrest
    rw [unixBreaks_cons, if_neg ha, ih]
    rfl
  | case3 => rfl

/-- **Translating keeps the lines.** -/
theorem lines_unixBreaks (cs : List Char) : lines (unixBreaks cs) = lines cs := by
  induction cs with
  | nil => rfl
  | cons c cs ih =>
    rw [unixBreaks_cons, lines_cons]
    by_cases ha : isAbsorbed c cs = true
    · rw [if_pos ha, if_pos ha, ih]
    rw [if_neg ha, if_neg ha]
    by_cases hc : c = '\r'
    · -- the carriage return stands alone, so it is a boundary before and after
      have hreturn : isLineBreak c = true := by rw [hc]; rfl
      have hfeed : isAbsorbed '\n' (unixBreaks cs) = false := rfl
      rw [if_pos hc, if_pos hreturn, lines_cons, hfeed, ih]
      rfl
    · have hkept : isAbsorbed c (unixBreaks cs) = false := by simp [isAbsorbed, hc]
      rw [if_neg hc, lines_cons, hkept, ih]
      rfl

/-- carriage returns after, before and without a line feed -/
example : lines (unixBreaks "\n\r\r\r\na\r\x0b\r".toList) = [[], [], [], [], ['a'], [], []] := by
  decide +kernel

end Text

namespace Listing

theorem read_of_lines_eq {s t : String} (h : Text.lines s.toList = Text.lines t.toList) :
    read s = read t := by
  unfold read
  rw [h]

/-- **Line endings do not matter.**  A text and its translation are read as the same listing, with the
same warnings and counts, or refused with the same fault.  So the same bytes are read alike as a file,
which is translated, and as the body of a request, which is not. -/
theorem read_translated :
    (∀ text, read (Text.translated text) = read text)
    ∧ ∀ r : Web.Request, read (Content.bytes r.body).text = read r.text := by
  constructor
  · intro text
    apply read_of_lines_eq
    rw [Text.translated, String.toList_ofList, ← Text.unixBreaks_eq, Text.lines_unixBreaks]
  · intro r
    apply read_of_lines_eq
    show Text.lines (String.ofList (Text.unixBreaks (Text.decode r.body))).toList
      = Text.lines (String.ofList (Text.decode r.body)).toList
    rw [String.toList_ofList, String.toList_ofList, Text.lines_unixBreaks]

end Listing

end MacroFusion
