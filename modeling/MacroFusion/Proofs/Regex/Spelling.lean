import MacroFusion.Proofs.Regex.Words

/-!
# Spelled patterns: mnemonics with bars between them

Most patterns of a catalog are one mnemonic, or a few with bars between them.  The reader does not keep
them as they stand: letters that all begin with are taken once, and single letters make a set.  What the
pattern fits does not change by this.

* `Spells`         an expression that fits some texts and no others;
* `spells_branch`  alternatives spell their texts, in whatever form they are kept;
* `sequence_letters`, `alternatives_bars`   letters are read one by one, and bars end a row of them;
* `read_bars`      so a text of letters and bars is read to the alternatives that it shows;
* `Pattern.fits_bars_iff`   and fits these.
-/

namespace MacroFusion

namespace Expression

open Regex (CharSet Fits)

/-- the set of some characters, each named on its own -/
def among (cs : List Char) : CharSet := ⟨false, cs.map fun c => .range c c, .exact⟩

/-- the expression of a character that stands for itself -/
def letter (c : Char) : Expression := .one (among [c])

theorem letter_inj {c d : Char} (h : letter c = letter d) : c = d := by
  simp only [letter, among, one.injEq, CharSet.mk.injEq, List.map_cons, List.cons.injEq,
    Regex.Item.range.injEq] at h
  exact h.2.1.1.1

theorem members?_among (cs : List Char) : (among cs).members? = some cs := by
  have hone : ∀ item ∈ (among cs).items, item.character?.isSome = true := by
    simp [among, Regex.Item.character?]
  rw [CharSet.members?, if_pos ⟨rfl, rfl, hone⟩]
  simp [among, Regex.Item.character?, List.filterMap_map, Function.comp_def]

theorem trimmed_of_regular {e : Expression} {r : Regex} (h : e.regular? = some r) (front back : Bool) :
    e.trimmed front back = e := by
  induction e generalizing r front back with
  | seq e f ihe ihf | alt e f ihe ihf =>
    obtain ⟨r, hr, h⟩ := Option.bind_eq_some_iff.mp h
    obtain ⟨s, hs, -⟩ := Option.map_eq_some_iff.mp h
    rw [trimmed, ihe hr, ihf hs]
  | group number e ih => rw [trimmed, ih h]
  | place test => cases h
  | nothing | one | times | again | given | look | once => rfl

/-! ## Spelling -/

/-- the expression is regular, and fits these texts and no others -/
def Spells (e : Expression) (ws : List (List Char)) : Prop :=
  ∃ r, e.regular? = some r ∧ ∀ w, Fits r w ↔ w ∈ ws

theorem Spells.fits_iff {e : Expression} {ws : List (List Char)} (h : e.Spells ws) (w : List Char) :
    e.fits w = true ↔ w ∈ ws := by
  obtain ⟨r, hr, hw⟩ := h
  rw [Expression.fits_iff (r := r) (by rw [trimmed_of_regular hr, hr]), hw]

theorem spells_nothing : nothing.Spells [[]] :=
  ⟨.epsilon, rfl, fun w => by rw [Regex.fits_epsilon_iff, List.mem_singleton]⟩

theorem Spells.alt {e f : Expression} {ws vs : List (List Char)} (he : e.Spells ws)
    (hf : f.Spells vs) : (Expression.alt e f).Spells (ws ++ vs) := by
  obtain ⟨r, hr, hw⟩ := he
  obtain ⟨s, hs, hv⟩ := hf
  refine ⟨.alt r s, by rw [regular?, hr, hs]; rfl, fun w => ?_⟩
  rw [Regex.fits_alt_iff, hw, hv, List.mem_append]

theorem spells_among (cs : List Char) : (one (among cs)).Spells (cs.map ([·])) := by
  refine ⟨_, rfl, fun w => ?_⟩
  simp only [Regex.fits_one_iff, CharSet.holds_iff (members?_among cs), List.mem_map, eq_comm]

theorem Spells.seq_letter {e : Expression} {ws : List (List Char)} (h : e.Spells ws) (c : Char) :
    (Expression.seq (letter c) e).Spells (ws.map (c :: ·)) := by
  obtain ⟨r, hr, hw⟩ := h
  obtain ⟨s, hs, hc⟩ := spells_among [c]
  refine ⟨.seq s r, by rw [regular?, letter, hs, hr]; rfl, fun w => ?_⟩
  simp only [Regex.fits_seq_iff, hc, hw, List.map_cons, List.map_nil, List.mem_singleton, List.mem_map]
  constructor
  · rintro ⟨u, v, rfl, rfl, hv⟩
    exact ⟨v, hv, rfl⟩
  · rintro ⟨v, hv, rfl⟩
    exact ⟨[c], v, rfl, rfl, hv⟩

theorem spells_row (w : List Char) : (row (w.map letter)).Spells [w] := by
  induction w with
  | nil => exact spells_nothing
  | cons c w ih =>
    cases w with
    | nil => exact spells_among [c]
    | cons d w => exact ih.seq_letter c

theorem spells_choice (w : List Char) (ws : List (List Char)) :
    (choice ((w :: ws).map (List.map letter))).Spells (w :: ws) := by
  induction ws generalizing w with
  | nil => exact spells_row w
  | cons v ws ih => exact (spells_row w).alt (ih v)

/-- a set is made only where every row is a letter -/
theorem among_of_union? (ws : List (List Char)) {set : CharSet}
    (h : union? (ws.map (List.map letter)) = some set) :
    ∃ cs, set = among cs ∧ ws = cs.map ([·]) := by
  induction ws generalizing set with
  | nil => cases h
  | cons w ws ih =>
    obtain ⟨c, rfl⟩ : ∃ c, w = [c] := by
      match w, ws with
      | [c], _ => exact ⟨c, rfl⟩
      | [], [] | [], _ :: _ | _ :: _ :: _, [] | _ :: _ :: _, _ :: _ => cases h
    cases ws with
    | nil =>
      obtain rfl := Option.some.inj h
      exact ⟨[c], rfl, rfl⟩
    | cons v ws =>
      rw [List.map_cons, List.map_cons, List.map_nil, letter, union?] at h
      · cases hrest : union? ((v :: ws).map (List.map letter)) with
        | none => rw [hrest] at h; cases h
        | some rest =>
          obtain ⟨cs, rfl, hws⟩ := ih hrest
          rw [hrest] at h
          obtain rfl := Option.some.inj h
          exact ⟨c :: cs, rfl, by rw [hws]; rfl⟩
      · intro heq
        cases heq

theorem cons_tail_of_head {c : Char} {u : List Char} (h : (u.map letter).head? = some (letter c)) :
    c :: u.tail = u := by
  cases u with
  | nil => cases h
  | cons d u => rw [letter_inj (Option.some.inj h), List.tail_cons]

/-- **Alternatives spell their texts**, whether or not they share a beginning or make a set. -/
theorem spells_branch (w : List Char) (ws : List (List Char)) :
    (branch (w.map letter) (ws.map (List.map letter))).Spells (w :: ws) := by
  induction w generalizing ws with
  | nil =>
    cases ws with
    | nil => exact spells_nothing
    | cons v ws => exact spells_choice [] (v :: ws)
  | cons c w ih =>
    cases ws with
    | nil => exact spells_row (c :: w)
    | cons v ws =>
      rw [List.map_cons, branch]
      · split
        · rename_i hshared
          have hhead : ∀ u ∈ v :: ws, c :: u.tail = u := by
            intro u hu
            have hall := List.all_eq_true.mp (Bool.and_eq_true_iff.mp hshared).2 _
              (List.mem_map_of_mem (f := List.map letter) hu)
            exact cons_tail_of_head (by simpa using hall)
          have hrows : ((v :: ws).map (List.map letter)).map List.tail
              = ((v :: ws).map List.tail).map (List.map letter) := by
            simp only [List.map_map, Function.comp_def, List.map_tail]
          have hws : ((v :: ws).map List.tail).map (c :: ·) = v :: ws := by
            rw [List.map_map]
            exact (List.map_congr_left hhead).trans (List.map_id _)
          have hspells := (ih ((v :: ws).map List.tail)).seq_letter c
          rwa [List.map_cons (a := w), hws, ← hrows] at hspells
        · split
          · rename_i set hset
            obtain ⟨cs, rfl, hws⟩ := among_of_union? ((c :: w) :: v :: ws) hset
            rw [hws]
            exact spells_among cs
          · exact spells_choice (c :: w) (v :: ws)
      · intro heq
        cases heq

/-! ## Reading letters and bars -/

theorem skip?_of_head {cs : List Char} (h : cs.head? ≠ some '(') : skip? {} cs = none := by
  unfold skip?
  split
  · exact absurd rfl h
  · rfl
  · rfl

section
variable {c : Char} (h : c.isUpper = true) (cs : List Char)
include h

theorem suffix_letter : suffix (c :: cs) = .plain := by
  unfold suffix
  split <;> first | rfl | (rename_i heq; cases heq; exact absurd h (by decide))

theorem simplePiece_letter : simplePiece {} (c :: cs) = pure (⟨letter c, true⟩, cs) := by
  unfold simplePiece
  split <;> rename_i heq <;> cases heq <;> first | rfl | exact absurd h (by decide)

/-- a letter becomes a part of the row -/
theorem sequence_letter (budget : Nat) (before : List Piece) :
    sequence (budget + 1) {} before (c :: cs) = sequence budget {} (⟨letter c, true⟩ :: before) cs := by
  have hne : ∀ d : Char, d.isUpper = false → c ≠ d := by
    rintro d hd rfl
    rw [h] at hd
    cases hd
  have hbar : c ≠ '|' := hne _ (by decide)
  have hclose : c ≠ ')' := hne _ (by decide)
  have hopen : c ≠ '(' := hne _ (by decide)
  have hskip : skip? {} (c :: cs) = none := skip?_of_head (by simpa using hopen)
  rw [sequence.eq_def]
  simp only [List.isEmpty_cons, List.head?_cons, Option.some.injEq, hbar, hclose, decide_false,
    Bool.or_self, Bool.false_eq_true, if_false, hskip, suffix_letter h]
  split
  · rename_i heq
    cases heq
    exact absurd rfl hopen
  · rw [simplePiece_letter h, pure_bind]

end

/-- the texts with bars between them -/
def bars : List Char → List (List Char) → List Char
  | w, [] => w
  | w, v :: ws => w ++ '|' :: bars v ws

theorem sequence_letters {w : List Char} (h : ∀ c ∈ w, c.isUpper = true) {rest : List Char}
    (hr : rest = [] ∨ rest.head? = some '|') (budget : Nat) (hb : w.length < budget)
    (before : List Piece) :
    sequence budget {} before (w ++ rest)
      = pure (before.reverse.flatMap (·.expression.parts) ++ w.map letter, rest) := by
  induction w generalizing budget before with
  | nil =>
    obtain ⟨budget, rfl⟩ := Nat.exists_eq_succ_of_ne_zero (Nat.ne_of_gt hb)
    have hend : (rest.isEmpty || decide (rest.head? = some '|') || decide (rest.head? = some ')')) = true := by
      rcases hr with rfl | hr
      · rfl
      · simp [hr]
    rw [List.nil_append, sequence.eq_def, List.map_nil, List.append_nil]
    exact if_pos hend
  | cons c w ih =>
    obtain ⟨budget, rfl⟩ := Nat.exists_eq_succ_of_ne_zero (Nat.ne_of_gt (Nat.zero_lt_of_lt hb))
    obtain ⟨hc, hw⟩ := List.forall_mem_cons.mp h
    rw [List.cons_append, sequence_letter hc, ih hw budget (Nat.lt_of_succ_lt_succ hb)]
    simp [parts, letter]

/-- a bar ends a row, and the rows become alternatives at the end of the text -/
theorem alternatives_bars {w : List Char} {ws : List (List Char)}
    (h : ∀ u ∈ w :: ws, ∀ c ∈ u, c.isUpper = true) (budget : Nat) (hb : (bars w ws).length + 1 < budget)
    (before : List (List Expression)) {first : List Expression} {others : List (List Expression)}
    (hrows : before.reverse ++ (w :: ws).map (List.map letter) = first :: others) :
    alternatives budget {} before (bars w ws) = pure (branch first others, []) := by
  induction ws generalizing w before budget with
  | nil =>
    obtain ⟨budget, rfl⟩ := Nat.exists_eq_succ_of_ne_zero (Nat.ne_of_gt (Nat.zero_lt_of_lt hb))
    have hrow := sequence_letters (h w List.mem_cons_self) (.inl rfl) budget
      (Nat.lt_of_succ_lt_succ hb) []
    rw [List.append_nil] at hrow
    rw [bars, alternatives, hrow, pure_bind]
    simp only [List.reverse_nil, List.flatMap_nil, List.nil_append, List.reverse_cons]
    rw [show before.reverse ++ [w.map letter] = first :: others from hrows]
  | cons v ws ih =>
    obtain ⟨budget, rfl⟩ := Nat.exists_eq_succ_of_ne_zero (Nat.ne_of_gt (Nat.zero_lt_of_lt hb))
    rw [bars, List.length_append, List.length_cons] at hb
    have hbar : ('|' :: bars v ws).head? = some '|' := rfl
    have hrow := sequence_letters (h w List.mem_cons_self) (.inr hbar) budget (by omega) []
    rw [bars, alternatives, hrow, pure_bind]
    simp only [List.reverse_nil, List.flatMap_nil, List.nil_append]
    apply ih (fun u hu => h u (List.mem_cons_of_mem _ hu)) budget (by omega)
    rw [← hrows, List.reverse_cons, List.append_assoc]
    rfl

theorem leadingFlags_of_head {cs : List Char} (h : cs.head? ≠ some '(') (budget : Nat) :
    leadingFlags (budget + 1) [] cs = pure ([], cs) := by
  have hskip : skip? (Flags.change {} [] []) cs = none := skip?_of_head h
  rw [leadingFlags, hskip]
  rintro more rfl
  exact absurd rfl h

theorem head?_bars_ne {w : List Char} (ws : List (List Char)) (h : ∀ c ∈ w, c.isUpper = true) :
    (bars w ws).head? ≠ some '(' := by
  cases w with
  | nil => cases ws <;> simp [bars]
  | cons c w =>
    have hc : c ≠ '(' := by
      rintro rfl
      exact absurd (h _ List.mem_cons_self) (by decide)
    cases ws <;> simpa [bars] using hc

/-- **A text of letters and bars is read to the alternatives that it shows.** -/
theorem read_bars {w : List Char} {ws : List (List Char)}
    (h : ∀ u ∈ w :: ws, ∀ c ∈ u, c.isUpper = true) :
    read (bars w ws) = .ok (branch (w.map letter) (ws.map (List.map letter))) := by
  have hflags := leadingFlags_of_head (head?_bars_ne ws (h w List.mem_cons_self))
    (4 * (bars w ws).length + 3)
  have hall := alternatives_bars h (4 * (bars w ws).length + 4) (by omega) [] rfl
  unfold read readAll
  dsimp only
  rw [hflags, pure_bind]
  dsimp only
  rw [show Flags.change {} [] [] = {} from rfl, hall]
  rfl

end Expression

namespace Pattern

open Expression (bars)

/-- **A pattern of letters and bars fits what stands between the bars.** -/
theorem fits_bars_iff {p : Pattern} (w : List Char) (ws : List (List Char))
    (h : ∀ u ∈ w :: ws, ∀ c ∈ u, c.isUpper = true) (hp : p.source.toList = bars w ws)
    (mnemonic : String) : p.fits mnemonic = true ↔ mnemonic.toList ∈ w :: ws := by
  have hread := p.read
  rw [hp, Expression.read_bars h] at hread
  rw [Pattern.fits, ← Except.ok.inj hread]
  exact (Expression.spells_branch w ws).fits_iff mnemonic.toList

end Pattern

end MacroFusion
