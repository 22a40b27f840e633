import MacroFusion.Catalog.AppleM
import MacroFusion.Catalog.NeoverseV2
import MacroFusion.Proofs.Regex.Spelling

/-!
# Mnemonics: what the patterns of the shipped catalogs fit

All that is said about the shipped catalogs rests on the mnemonics that their patterns fit.  A few
patterns offer a choice, and every other one is a mnemonic itself.

* `patterns`     the patterns of the rules and of the detectors of a catalog;
* `documented`   the mnemonics that a pattern is meant to fit, by its text;
* `fits_iff_mem_documented`   the patterns of the shipped catalogs fit these and nothing else;
* `eq_of_isPartOf`   no documented mnemonic has another one of its pattern in it, `MOVZ` apart;
* `shipped_fits_exactly`   so nothing can be put before or after a mnemonic that fits.
-/

namespace MacroFusion

def Detector.patterns : Detector → List Pattern
  | .separated first second _ | .unpaired first second => [first, second]
  | .custom _ _ => []

namespace Catalog

def patterns (c : Catalog) : List Pattern :=
  c.rules.flatMap (fun r => [r.first, r.second]) ++ c.missed.flatMap (·.detector.patterns)

/-- the patterns that offer a choice, by their texts -/
def choices : Dictionary (List String) :=
  [("B\\.(?:EQ|NE|CS|HS|CC|LO|MI|PL|VS|VC|HI|LS|GE|LT|GT|LE|AL|NV)",
      ["B.EQ", "B.NE", "B.CS", "B.HS", "B.CC", "B.LO", "B.MI", "B.PL", "B.VS", "B.VC", "B.HI", "B.LS",
        "B.GE", "B.LT", "B.GT", "B.LE", "B.AL", "B.NV"]),
    ("AES[ED]", ["AESE", "AESD"]),
    ("AESI?MC", ["AESMC", "AESIMC"]),
    ("ADD|LDR", ["ADD", "LDR"]),
    ("MOVZ?", ["MOV", "MOVZ"]),
    ("CSEL|CSET|CSINC", ["CSEL", "CSET", "CSINC"])]

/-- the patterns that are mnemonics themselves -/
def literals : List String :=
  ["CMP", "CMN", "TST", "ADDS", "SUBS", "ANDS", "ADD", "SUB", "ADRP", "LDR", "MOVK"]

/-- what a pattern is meant to fit: its choice, or else just its text -/
def documented (source : String) : List String := (choices.lookup source).getD [source]

/-- the two catalogs that come with the program -/
def shipped : List Catalog := [appleM, neoverseV2]

/-! ## Finite tables -/

theorem words?_shipped :
    ∀ c ∈ shipped, ∀ p ∈ c.patterns, p.words? = some (documented p.source) := by
  decide +kernel

theorem source_shipped :
    ∀ c ∈ shipped, ∀ p ∈ c.patterns, p.source ∈ choices.keys ∨ p.source ∈ literals := by
  decide +kernel

theorem exists_shipped : ∀ source ∈ choices.keys ++ literals,
    ∃ c ∈ shipped, ∃ p ∈ c.patterns, p.source = source := by
  decide +kernel

theorem letters_documented : ∀ source ∈ choices.keys ++ literals, ∀ m ∈ documented source,
    (m.toList.all fun d => d.isUpper || d = '.') = true := by
  decide +kernel

theorem eq_of_isPartOf : ∀ source ∈ choices.keys ++ literals, ∀ m ∈ documented source,
    ∀ n ∈ documented source, Text.isPartOf m n = true →
      m = n ∨ (source = "MOVZ?" ∧ m = "MOV" ∧ n = "MOVZ") := by
  decide +kernel

theorem near_misses : ∀ source ∈ choices.keys ++ literals, ∀ m ∈ ["ADDS", "FADD", "BC.EQ", "B.EQX"],
    m ∈ documented source → m = "ADDS" ∧ source = "ADDS" := by
  decide +kernel

/-! ## Every mnemonic -/

section
variable {c : Catalog} (hc : c ∈ shipped) {p : Pattern} (hp : p ∈ c.patterns)
include hc hp

theorem source_mem : p.source ∈ choices.keys ++ literals :=
  List.mem_append.mpr (source_shipped c hc p hp)

theorem fits_iff_mem_documented (m : String) : p.fits m = true ↔ m ∈ documented p.source :=
  Pattern.fits_iff_mem (words?_shipped c hc p hp) m

/-- **Nothing can be put around a mnemonic that fits**, but that `MOV` can be made `MOVZ`. -/
theorem eq_empty_of_fits {before m after : String} (hm : p.fits m = true)
    (h : p.fits (before ++ m ++ after) = true) :
    before = "" ∧ (after = "" ∨ (p.source = "MOVZ?" ∧ m = "MOV" ∧ after = "Z")) := by
  rw [fits_iff_mem_documented hc hp] at hm h
  have hlist : (before ++ m ++ after).toList = before.toList ++ m.toList ++ after.toList := by
    rw [String.toList_append, String.toList_append]
  have hpart : Text.isPartOf m (before ++ m ++ after) = true :=
    Text.isPartOf_iff.mpr ⟨before.toList, after.toList, hlist.symm⟩
  rcases eq_of_isPartOf _ (source_mem hc hp) m hm _ h hpart with heq | ⟨hsource, rfl, heq⟩
  · have hlen := congrArg List.length hlist
    rw [← heq, List.length_append, List.length_append] at hlen
    have hbefore : before.toList = [] := List.eq_nil_of_length_eq_zero (by omega)
    have hafter : after.toList = [] := List.eq_nil_of_length_eq_zero (by omega)
    exact ⟨String.toList_eq_nil_iff.mp hbefore, .inl (String.toList_eq_nil_iff.mp hafter)⟩
  · have hchars : ['M', 'O', 'V', 'Z'] = before.toList ++ ['M', 'O', 'V'] ++ after.toList := by
      rw [heq] at hlist
      exact hlist
    cases hb : before.toList with
    | nil =>
      rw [hb] at hchars
      have hafter : after.toList = "Z".toList := by simpa using hchars.symm
      exact ⟨String.toList_eq_nil_iff.mp hb, .inr ⟨hsource, rfl, String.toList_inj.mp hafter⟩⟩
    | cons d rest =>
      -- one character more in front leaves no room for the last one
      rw [hb] at hchars
      have hlen := congrArg List.length hchars
      simp only [List.length_append, List.length_cons, List.length_nil] at hlen
      obtain rfl : rest = [] := List.eq_nil_of_length_eq_zero (by omega)
      simp at hchars

end

/-- **The patterns of the shipped catalogs fit the documented mnemonics**, and no other text.  All but the
six that offer a choice are mnemonics in capitals; whatever catalog it is in, a pattern of capitals and
bars fits what stands between the bars, so that without a bar it fits itself.  A mnemonic that fits has
nothing in it but capitals and a point, and no longer text around it fits the same pattern, except that
`MOV` and `MOVZ` do. -/
theorem shipped_fits_exactly :
    (∀ c ∈ shipped, ∀ p ∈ c.patterns,
      (p.source ∈ choices.keys ∨ p.source ∈ literals)
      ∧ (∀ m, p.fits m = true ↔ m ∈ documented p.source)
      ∧ (∀ m, p.fits m = true → (∀ d ∈ m.toList, d.isUpper = true ∨ d = '.')
        ∧ ∀ before after, p.fits (before ++ m ++ after) = true →
          before = "" ∧ (after = "" ∨ (p.source = "MOVZ?" ∧ m = "MOV" ∧ after = "Z")))
      ∧ ∀ m ∈ ["ADDS", "FADD", "BC.EQ", "B.EQX"], p.fits m = true → m = "ADDS" ∧ p.source = "ADDS")
    ∧ (∀ source ∈ choices.keys ++ literals, ∃ c ∈ shipped, ∃ p ∈ c.patterns, p.source = source)
    ∧ ∀ (p : Pattern) (w : List Char) (ws : List (List Char)),
      (∀ u ∈ w :: ws, ∀ d ∈ u, d.isUpper = true) → p.source.toList = Expression.bars w ws →
      ∀ m, p.fits m = true ↔ m.toList ∈ w :: ws := by
  refine ⟨fun c hc p hp => ?_, exists_shipped, fun p w ws h hp => Pattern.fits_bars_iff w ws h hp⟩
  have hfits := fits_iff_mem_documented hc hp
  have hsource := source_mem hc hp
  refine ⟨source_shipped c hc p hp, hfits, fun m hm => ⟨?_, ?_⟩, fun m hm h => ?_⟩
  · intro d hd
    simpa using List.all_eq_true.mp (letters_documented _ hsource m ((hfits m).mp hm)) d hd
  · exact fun before after h => eq_empty_of_fits hc hp hm h
  · exact near_misses _ hsource m hm ((hfits m).mp h)

/-- a choice that has one of its mnemonics at the head of the other -/
theorem shipped_fits_exactly_wideStart :
    ∃ p ∈ neoverseV2.patterns, p.source = "MOVZ?" ∧ p.fits "MOV" = true ∧ p.fits "MOVZ" = true
      ∧ p.fits "MOVZ\n" = false ∧ p.fits "MOVZZ" = false := by
  have hp : Rule.wideStart ∈ neoverseV2.patterns := by
    simp [patterns, neoverseV2]
  obtain ⟨-, hfits, -, -⟩ := shipped_fits_exactly.1 neoverseV2 (by simp [shipped]) Rule.wideStart hp
  refine ⟨Rule.wideStart, hp, rfl, (hfits _).mpr (by decide), (hfits _).mpr (by decide), ?_, ?_⟩
  · rw [← Bool.not_eq_true, hfits]
    decide
  · rw [← Bool.not_eq_true, hfits]
    decide

end Catalog

end MacroFusion
