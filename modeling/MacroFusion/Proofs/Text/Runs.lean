import MacroFusion.Listing.Line
import MacroFusion.Text.Lines

/-!
# Runs: texts cut where a class of characters ends

Every reader of a line takes the longest run of a class of characters and goes on behind it.  A text
STOPS a class if it does not begin with a character of it; a run of the class in front of such a text is
taken whole (`takeWhile_run`, `dropWhile_run`).

The second half says how the classes of characters lie to each other.  Hexadecimal digits and letters
are ASCII, so what holds of them is a matter of 128 characters (`ascii_all`).
-/

namespace MacroFusion.Text

/-! ## Runs -/

/-- the text is empty or begins with a character outside the class -/
def Stops (p : Char → Bool) (cs : List Char) : Prop := ∀ c, cs.head? = some c → p c = false

theorem stops_nil (p : Char → Bool) : Stops p [] := by
  intro c hc
  cases hc

theorem stops_cons {p : Char → Bool} {c : Char} (h : p c = false) (cs : List Char) :
    Stops p (c :: cs) := by
  intro d hd
  cases hd
  exact h

theorem takeWhile_of_stops {p : Char → Bool} {cs : List Char} (h : Stops p cs) :
    cs.takeWhile p = [] := by
  cases cs with
  | nil => rfl
  | cons c cs =>
    have hc : p c = false := h c rfl
    rw [List.takeWhile_cons_of_neg (by rw [hc]; exact Bool.false_ne_true)]

theorem dropWhile_of_stops {p : Char → Bool} {cs : List Char} (h : Stops p cs) :
    cs.dropWhile p = cs := by
  cases cs with
  | nil => rfl
  | cons c cs =>
    have hc : p c = false := h c rfl
    rw [List.dropWhile_cons_of_neg (by rw [hc]; exact Bool.false_ne_true)]

theorem takeWhile_run {p : Char → Bool} {run rest : List Char} (h : ∀ c ∈ run, p c = true)
    (hs : Stops p rest) : (run ++ rest).takeWhile p = run := by
  rw [List.takeWhile_append_of_pos h, takeWhile_of_stops hs, List.append_nil]

theorem dropWhile_run {p : Char → Bool} {run rest : List Char} (h : ∀ c ∈ run, p c = true)
    (hs : Stops p rest) : (run ++ rest).dropWhile p = rest := by
  rw [List.dropWhile_append_of_pos h, dropWhile_of_stops hs]

theorem stops_dropWhile (p : Char → Bool) (cs : List Char) : Stops p (cs.dropWhile p) := by
  intro c hc
  have h := List.head?_dropWhile_not p cs
  rw [hc] at h
  exact h

/-- a text is cut in one way only where a class of characters ends -/
theorem run_unique {p : Char → Bool} {run₁ run₂ rest₁ rest₂ : List Char}
    (h₁ : ∀ c ∈ run₁, p c = true) (h₂ : ∀ c ∈ run₂, p c = true) (hs₁ : Stops p rest₁)
    (hs₂ : Stops p rest₂) (he : run₁ ++ rest₁ = run₂ ++ rest₂) : run₁ = run₂ ∧ rest₁ = rest₂ := by
  have hrun : run₁ = run₂ := by
    rw [← takeWhile_run h₁ hs₁, he, takeWhile_run h₂ hs₂]
  rw [hrun] at he
  exact ⟨hrun, List.append_cancel_left he⟩

/-! ## Blanks at the ends -/

theorem trimEnd_concat (cs : List Char) {c : Char} (h : isBlank c = false) :
    trimEnd (cs ++ [c]) = cs ++ [c] := by
  have hs : Stops isBlank (cs ++ [c]).reverse := by
    rw [List.reverse_append]
    exact stops_cons h cs.reverse
  rw [trimEnd, dropWhile_of_stops hs, List.reverse_reverse]

theorem trimEnd_append {ds : List Char} (h : trimEnd ds ≠ []) (cs : List Char) :
    trimEnd (cs ++ ds) = cs ++ trimEnd ds := by
  have hne : (ds.reverse.dropWhile isBlank).isEmpty = false := by
    rw [List.isEmpty_eq_false_iff]
    intro he
    exact h (by rw [trimEnd, he]; rfl)
  rw [trimEnd, List.reverse_append, List.dropWhile_append, if_neg (by rw [hne]; exact Bool.false_ne_true),
    List.reverse_append, List.reverse_reverse]
  rfl

theorem trimEnd_ne_nil {cs : List Char} {c : Char} (hc : c ∈ cs) (h : isBlank c = false) :
    trimEnd cs ≠ [] := by
  intro he
  have hd : cs.reverse.dropWhile isBlank = [] := List.reverse_eq_nil_iff.mp he
  have hall : ∀ d ∈ cs.reverse, isBlank d = true := by
    rw [← List.takeWhile_append_dropWhile (p := isBlank) (l := cs.reverse), hd, List.append_nil]
    exact fun d hd => List.all_eq_true.mp List.all_takeWhile d hd
  have hb := hall c (List.mem_reverse.mpr hc)
  rw [h] at hb
  cases hb

theorem exists_trimEnd_append (cs : List Char) :
    ∃ blanks, cs = trimEnd cs ++ blanks ∧ ∀ c ∈ blanks, isBlank c = true := by
  refine ⟨(cs.reverse.takeWhile isBlank).reverse, ?_, ?_⟩
  · have h := List.takeWhile_append_dropWhile (p := isBlank) (l := cs.reverse)
    rw [trimEnd, ← List.reverse_append, h, List.reverse_reverse]
  · intro c hc
    exact List.all_eq_true.mp List.all_takeWhile c (List.mem_reverse.mp hc)

theorem isPrefix_trimEnd (cs : List Char) : trimEnd cs <+: cs := by
  obtain ⟨blanks, h, _⟩ := exists_trimEnd_append cs
  exact ⟨blanks, h.symm⟩

theorem stops_trimEnd {p : Char → Bool} {cs : List Char} (h : Stops p cs) :
    Stops p (trimEnd cs) := by
  obtain ⟨ds, hds⟩ := isPrefix_trimEnd cs
  intro c hc
  apply h
  rw [← hds, List.head?_append, hc]
  rfl

/-- a text that is its own trimmed form does not begin with a blank -/
theorem stops_of_trim_eq {cs : List Char} (h : trim cs = cs) : Stops isBlank cs := by
  cases cs with
  | nil => exact stops_nil _
  | cons c cs =>
    cases hc : isBlank c with
    | false => exact stops_cons hc cs
    | true =>
      have h1 := (isPrefix_trimEnd (trimStart (c :: cs))).length_le
      have h2 := (List.dropWhile_suffix (l := cs) isBlank).length_le
      have h3 : (trim (c :: cs)).length = (c :: cs).length := by rw [h]
      rw [trimStart_cons_of_blank hc] at h1
      rw [trim, trimStart_cons_of_blank hc, List.length_cons] at h3
      rw [trimStart] at h1 h3
      omega

theorem trim_of_stops {cs : List Char} (h : Stops isBlank cs) : trim cs = trimEnd cs := by
  rw [trim, trimStart, dropWhile_of_stops h]

/-! ## Classes of characters -/

/-- a fact about ASCII characters, tried on all of them -/
theorem ascii_all (p : Char → Bool) (h : (List.range 128).all (fun n => p (Char.ofNat n)) = true)
    (c : Char) (hc : c.toNat < 128) : p c = true := by
  have := List.all_eq_true.mp h c.toNat (List.mem_range.mpr hc)
  rwa [Char.ofNat_toNat] at this

/-- a code point in a table is one of those that the ranges spell out -/
theorem Ranges.mem_of_holds {rs : Ranges} {n : Nat} (h : rs.holds n = true) :
    n ∈ rs.flatMap fun r => List.range' r.1 (r.2 + 1 - r.1) := by
  induction rs with
  | nil => cases h
  | cons r rs ih =>
    obtain ⟨lo, hi⟩ := r
    rw [Ranges.holds_cons] at h
    rw [List.flatMap_cons, List.mem_append, List.mem_range'_1]
    by_cases hlo : n < lo
    · rw [if_pos hlo] at h
      cases h
    · by_cases hhi : n ≤ hi
      · exact Or.inl ⟨by omega, by show n < lo + (hi + 1 - lo); omega⟩
      · rw [if_neg hlo, if_neg hhi] at h
        exact Or.inr (ih h)

end MacroFusion.Text

namespace MacroFusion.Line

open Text

theorem lt_of_isHex {c : Char} (h : isHex c = true) : c.toNat < 128 := by
  simp [isHex, Char.isDigit, Char.le_def, UInt32.le_iff_toNat_le] at h
  omega

theorem lt_of_isAlpha {c : Char} (h : c.isAlpha = true) : c.toNat < 128 := by
  rcases (Bool.or_eq_true _ _).mp h with hu | hl
  · have hz : c.val ≥ 'A'.val ∧ c.val ≤ 'Z'.val := of_decide_eq_true hu
    have : c.toNat ≤ 90 := UInt32.le_iff_toNat_le.mp hz.2
    omega
  · have hz : (decide (c.val ≥ 'a'.val) && decide (c.val ≤ 'z'.val)) = true := hl
    rw [Bool.and_eq_true, decide_eq_true_eq, decide_eq_true_eq] at hz
    have : c.toNat ≤ 122 := UInt32.le_iff_toNat_le.mp hz.2
    omega

theorem isBlank_of_isHex {c : Char} (h : isHex c = true) : isBlank c = false := by
  have := ascii_all (fun c => !isHex c || !isBlank c) (by decide +kernel) c (lt_of_isHex h)
  simpa [h] using this

theorem isHex_of_isBlank {c : Char} (h : isBlank c = true) : isHex c = false := by
  cases hh : isHex c with
  | false => rfl
  | true =>
    rw [isBlank_of_isHex hh] at h
    cases h

theorem isBlank_of_isAlpha {c : Char} (h : c.isAlpha = true) : isBlank c = false := by
  have := ascii_all (fun c => !c.isAlpha || !isBlank c) (by decide +kernel) c (lt_of_isAlpha h)
  simpa [h] using this

theorem isMnemonicChar_of_isHex {c : Char} (h : isHex c = true) : isMnemonicChar c = true := by
  have := ascii_all (fun c => !isHex c || isMnemonicChar c) (by decide +kernel) c (lt_of_isHex h)
  simpa [h] using this

theorem isMnemonicChar_of_isAlpha {c : Char} (h : c.isAlpha = true) : isMnemonicChar c = true := by
  have := ascii_all (fun c => !c.isAlpha || isMnemonicChar c) (by decide +kernel) c
    (lt_of_isAlpha h)
  simpa [h] using this

theorem isMnemonicChar_of_isBlank {c : Char} (h : isBlank c = true) :
    isMnemonicChar c = false := by
  have hall : ∀ n ∈ blankRanges.flatMap (fun r => List.range' r.1 (r.2 + 1 - r.1)),
      isMnemonicChar (Char.ofNat n) = false := by decide +kernel
  have hc := hall c.toNat (Ranges.mem_of_holds h)
  rwa [Char.ofNat_toNat] at hc

theorem isBlank_of_isMnemonicChar {c : Char} (h : isMnemonicChar c = true) :
    isBlank c = false := by
  cases hb : isBlank c with
  | false => rfl
  | true =>
    rw [isMnemonicChar_of_isBlank hb] at h
    cases h

/-- a line never breaks inside a mnemonic -/
theorem isLineBreak_of_isMnemonicChar {c : Char} (h : isMnemonicChar c = true) :
    isLineBreak c = false := by
  cases hb : isLineBreak c with
  | false => rfl
  | true =>
    simp only [isLineBreak, Bool.or_eq_true, beq_iff_eq] at hb
    have hc : isMnemonicChar c = false := by
      rcases hb with ((((((((rfl | rfl) | rfl) | rfl) | rfl) | rfl) | rfl) | rfl) | rfl) | rfl <;>
        decide +kernel
    rw [h] at hc
    cases hc

theorem isLineBreak_of_isHex {c : Char} (h : isHex c = true) : isLineBreak c = false :=
  isLineBreak_of_isMnemonicChar (isMnemonicChar_of_isHex h)

/-- the capital form of hexadecimal digits, digit by digit -/
theorem upper_of_isHex {cs : List Char} (h : ∀ c ∈ cs, isHex c = true) :
    upper cs = cs.map Char.toUpper := by
  induction cs with
  | nil => rfl
  | cons c cs ih =>
    have hc := lt_of_isHex (h c List.mem_cons_self)
    have e : upperChar c = [c.toUpper] := if_pos hc
    rw [upper_cons, ih fun d hd => h d (List.mem_cons_of_mem _ hd), e]
    rfl

end MacroFusion.Line
