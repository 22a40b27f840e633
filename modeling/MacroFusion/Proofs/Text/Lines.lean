import MacroFusion.Text.Lines

/-!
# Lines put together and cut again

A text without a line boundary is UNBROKEN.  Unbroken lines that are joined by line feeds are the lines
of the text they make up (`lines_intercalate`), as long as none of them is empty.  A text after one that
ends with a line feed starts a line of its own (`lines_append`).  There are no more lines than characters
(`length_lines_le`).
-/

namespace MacroFusion.Text

/-- without a line boundary -/
def Unbroken (cs : List Char) : Prop := ∀ c ∈ cs, isLineBreak c = false

instance (cs : List Char) : Decidable (Unbroken cs) :=
  List.decidableBAll (fun c => isLineBreak c = false) cs

theorem unbroken_nil : Unbroken [] := by
  intro c hc
  cases hc

theorem unbroken_cons_iff {c : Char} {cs : List Char} :
    Unbroken (c :: cs) ↔ isLineBreak c = false ∧ Unbroken cs := List.forall_mem_cons

theorem unbroken_append_iff {cs ds : List Char} :
    Unbroken (cs ++ ds) ↔ Unbroken cs ∧ Unbroken ds := List.forall_mem_append

theorem Unbroken.not_mem_newline {cs : List Char} (h : Unbroken cs) : '\n' ∉ cs := by
  intro hn
  have := h '\n' hn
  exact absurd this (by decide)

theorem lines_cons_of_not_break {c : Char} (h : isLineBreak c = false) (cs : List Char) :
    lines (c :: cs) = consToFirst c (lines cs) := by
  -- a carriage return would be a boundary by itself
  have hr : c ≠ '\r' := by
    intro hc
    rw [hc] at h
    exact absurd h (by decide)
  have ha : isAbsorbed c cs = false := by simp [isAbsorbed, hr]
  rw [lines_cons, ha, h]
  rfl

theorem lines_append_newline {l : List Char} (h : Unbroken l) (rest : List Char) :
    lines (l ++ '\n' :: rest) = l :: lines rest := by
  induction l with
  | nil => rfl
  | cons c l ih =>
    rw [List.cons_append, lines_cons_of_not_break (h c List.mem_cons_self),
      ih fun d hd => h d (List.mem_cons_of_mem _ hd)]
    rfl

theorem lines_of_unbroken {l : List Char} (h : Unbroken l) (hne : l ≠ []) : lines l = [l] := by
  induction l with
  | nil => exact absurd rfl hne
  | cons c l ih =>
    rw [lines_cons_of_not_break (h c List.mem_cons_self)]
    cases l with
    | nil => rfl
    | cons d l =>
      rw [ih (fun e he => h e (List.mem_cons_of_mem _ he)) (List.cons_ne_nil d l)]
      rfl

/-- **Cutting undoes joining.** -/
theorem lines_intercalate (ls : List (List Char)) (h : ∀ l ∈ ls, Unbroken l ∧ l ≠ []) :
    lines (['\n'].intercalate ls) = ls := by
  induction ls with
  | nil => rfl
  | cons l ls ih =>
    have hl := h l List.mem_cons_self
    cases ls with
    | nil => rw [List.intercalate_singleton, lines_of_unbroken hl.1 hl.2]
    | cons k ls =>
      rw [List.intercalate_cons_cons, List.append_assoc]
      show lines (l ++ '\n' :: ['\n'].intercalate (k :: ls)) = _
      rw [lines_append_newline hl.1, ih fun m hm => h m (List.mem_cons_of_mem _ hm)]

theorem lines_ne_nil {cs : List Char} (h : cs ≠ []) : lines cs ≠ [] := by
  induction cs with
  | nil => exact absurd rfl h
  | cons c cs ih =>
    rw [lines_cons]
    split
    · -- the line feed that stands for the carriage return is still to come
      rename_i ha
      apply ih
      rintro rfl
      simp [isAbsorbed] at ha
    · split
      · exact List.cons_ne_nil _ _
      · cases lines cs <;> exact List.cons_ne_nil _ _

theorem consToFirst_append (c : Char) {ls : List (List Char)} (h : ls ≠ []) (ks : List (List Char)) :
    consToFirst c (ls ++ ks) = consToFirst c ls ++ ks := by
  cases ls with
  | nil => exact absurd rfl h
  | cons l ls => rfl

/-- **A line feed at the end closes the last line**, whatever comes after it. -/
theorem lines_append {cs : List Char} (h : cs.getLast? = some '\n') (ds : List Char) :
    lines (cs ++ ds) = lines cs ++ lines ds := by
  induction cs with
  | nil => cases h
  | cons c cs ih =>
    cases cs with
    | nil =>
      obtain rfl : c = '\n' := Option.some.inj h
      exact lines_append_newline unbroken_nil ds
    | cons d cs =>
      rw [List.getLast?_cons_cons] at h
      have ha : isAbsorbed c ((d :: cs) ++ ds) = isAbsorbed c (d :: cs) := rfl
      rw [List.cons_append, lines_cons, lines_cons, ha, ih h]
      split
      · rfl
      · split
        · rfl
        · exact consToFirst_append c (lines_ne_nil (List.cons_ne_nil d cs)) _

/-- every line takes a character at least -/
theorem length_lines_le (cs : List Char) : (lines cs).length ≤ cs.length := by
  induction cs with
  | nil => exact Nat.le_refl 0
  | cons c cs ih =>
    have hfirst : ∀ ls, (consToFirst c ls).length ≤ ls.length + 1 := by
      intro ls
      cases ls with
      | nil => exact Nat.le_refl 1
      | cons l ls => exact Nat.le_succ _
    rw [lines_cons, List.length_cons]
    split
    · omega
    split
    · rw [List.length_cons]
      omega
    · exact Nat.le_trans (hfirst _) (Nat.succ_le_succ ih)

end MacroFusion.Text
