import MacroFusion.Regex.Partial

/-!
# What an expression accepts

`Regex.accepts_iff_fits`: an expression accepts exactly the texts that fit it.  Three facts lead there.

* A text with `c` in front fits `r` exactly if the text fits one of `r.partials c` (`fits_cons_iff`).
* Preparing an expression changes nothing for the texts that are short enough (`fits_prepare_iff`).
* A repetition fits what so many copies fit, for some number within its bounds (`fits_times_iff`); the
  laws of repetitions are laws of these numbers.
-/

namespace MacroFusion.Regex

/-! ## The rules of `Fits`, read backwards -/

theorem not_fits_empty (w : List Char) : ¬ Fits .empty w := nofun

theorem fits_epsilon_iff {w : List Char} : Fits .epsilon w ↔ w = [] :=
  ⟨fun h => by cases h; rfl, fun h => h ▸ .epsilon⟩

theorem fits_one_iff {set : CharSet} {w : List Char} :
    Fits (.one set) w ↔ ∃ c, set.holds c = true ∧ w = [c] :=
  ⟨fun h => by cases h with | one hc => exact ⟨_, hc, rfl⟩,
    fun ⟨_, hc, hw⟩ => hw ▸ .one hc⟩

theorem fits_seq_iff {r s : Regex} {w : List Char} :
    Fits (.seq r s) w ↔ ∃ u v, w = u ++ v ∧ Fits r u ∧ Fits s v :=
  ⟨fun h => by cases h with | seq hu hv => exact ⟨_, _, rfl, hu, hv⟩,
    fun ⟨_, _, hw, hu, hv⟩ => hw ▸ .seq hu hv⟩

theorem fits_alt_iff {r s : Regex} {w : List Char} : Fits (.alt r s) w ↔ Fits r w ∨ Fits s w :=
  ⟨fun h => by cases h with
    | left h => exact .inl h
    | right h => exact .inr h,
    fun h => h.elim .left .right⟩

/-! ## Bounds -/

theorem within_zero (hi : Option Nat) : within 0 hi = true := by
  cases hi <;> simp [within]

theorem within_of_le {m n : Nat} {hi : Option Nat} (hmn : m ≤ n) (h : within n hi = true) :
    within m hi = true := by
  cases hi with
  | none => rfl
  | some hi =>
    have h : n ≤ hi := by simpa [within] using h
    have h' : m ≤ hi := Nat.le_trans hmn h
    simpa [within] using h'

theorem within_succ_iff {n : Nat} {hi : Option Nat} :
    within (n + 1) hi = true ↔ hi ≠ some 0 ∧ within n (hi.map (· - 1)) = true := by
  cases hi with
  | none => simp [within]
  | some hi =>
    cases hi with
    | zero => simp [within]
    | succ hi => simp [within]

/-! ## Copies in a row -/

/-- whether a text falls into so many parts that fit -/
def Copies (r : Regex) : Nat → List Char → Prop
  | 0, w => w = []
  | n + 1, w => ∃ u v, w = u ++ v ∧ Fits r u ∧ Copies r n v

theorem copies_add {r : Regex} {m n : Nat} {u v : List Char} (hu : Copies r m u)
    (hv : Copies r n v) : Copies r (m + n) (u ++ v) := by
  induction m generalizing u with
  | zero => rw [Nat.zero_add, show u = [] from hu]; exact hv
  | succ m ih =>
    obtain ⟨x, y, rfl, hx, hy⟩ := hu
    rw [Nat.succ_add, List.append_assoc]
    exact ⟨x, y ++ v, rfl, hx, ih hy⟩

theorem copies_split {r : Regex} {m n : Nat} {w : List Char} (h : Copies r (m + n) w) :
    ∃ u v, w = u ++ v ∧ Copies r m u ∧ Copies r n v := by
  induction m generalizing w with
  | zero => exact ⟨[], w, rfl, rfl, by rwa [Nat.zero_add] at h⟩
  | succ m ih =>
    rw [Nat.succ_add] at h
    obtain ⟨x, y, rfl, hx, hy⟩ := h
    obtain ⟨u, v, rfl, hu, hv⟩ := ih hy
    exact ⟨x ++ u, v, by rw [List.append_assoc], ⟨x, u, rfl, hx, hu⟩, hv⟩

theorem copies_nil_iff {r : Regex} {n : Nat} : Copies r n [] ↔ n = 0 ∨ Fits r [] := by
  induction n with
  | zero => exact ⟨fun _ => .inl rfl, fun _ => rfl⟩
  | succ n ih =>
    constructor
    · rintro ⟨u, v, hw, hu, _⟩
      obtain ⟨rfl, rfl⟩ := List.append_eq_nil_iff.1 hw.symm
      exact .inr hu
    · rintro (h | h)
      · exact absurd h (by omega)
      · exact ⟨[], [], rfl, h, ih.2 (.inr h)⟩

/-- the first copy can be taken to be one that is not empty -/
theorem copies_cons_iff {r : Regex} {n : Nat} {c : Char} {w : List Char} :
    Copies r n (c :: w) ↔
      ∃ m, n = m + 1 ∧ ∃ u v, w = u ++ v ∧ Fits r (c :: u) ∧ Copies r m v := by
  constructor
  · intro h
    induction n generalizing w with
    | zero => cases h
    | succ n ih =>
      obtain ⟨u, v, hw, hu, hv⟩ := h
      cases u with
      | nil =>
        rw [List.nil_append] at hw
        subst hw
        obtain ⟨m, rfl, x, y, hw, hx, hy⟩ := ih hv
        exact ⟨m + 1, rfl, x, y, hw, hx, [], y, rfl, hu, hy⟩
      | cons d u =>
        obtain ⟨rfl, rfl⟩ := List.cons.inj hw
        exact ⟨n, rfl, u, v, rfl, hu, hv⟩
  · rintro ⟨m, rfl, u, v, rfl, hu, hv⟩
    exact ⟨c :: u, v, rfl, hu, hv⟩

/-- of more copies than characters one is empty and can be left out -/
theorem copies_of_succ {r : Regex} {n : Nat} {w : List Char} (h : Copies r (n + 1) w)
    (hw : w.length ≤ n) : Copies r n w := by
  induction n generalizing w with
  | zero => exact List.length_eq_zero_iff.1 (by omega)
  | succ n ih =>
    obtain ⟨u, v, rfl, hu, hv⟩ := h
    cases u with
    | nil => exact hv
    | cons c u =>
      rw [List.length_append, List.length_cons] at hw
      exact ⟨c :: u, v, rfl, hu, ih hv (by omega)⟩

/-- no more copies are needed than the lower bound and the characters together -/
theorem copies_bounded {r : Regex} {lo n : Nat} {w : List Char} (h : Copies r n w)
    (hn : lo ≤ n) : ∃ m, lo ≤ m ∧ m ≤ lo + w.length ∧ Copies r m w := by
  induction n with
  | zero => exact ⟨0, hn, by omega, h⟩
  | succ n ih =>
    by_cases hle : n + 1 ≤ lo + w.length
    · exact ⟨n + 1, hn, hle, h⟩
    · exact ih (copies_of_succ h (by omega)) (by omega)

/-- a repetition fits what a number of copies within its bounds fits -/
theorem fits_times_iff {r : Regex} {lo : Nat} {hi : Option Nat} {w : List Char} :
    Fits (.times r lo hi) w ↔ ∃ n, lo ≤ n ∧ within n hi = true ∧ Copies r n w := by
  constructor
  · intro h
    generalize hs : Regex.times r lo hi = s at h
    induction h generalizing lo hi with
    | stop =>
      cases hs
      exact ⟨0, Nat.le_refl 0, within_zero _, rfl⟩
    | more hne hu _ _ ihv =>
      cases hs
      obtain ⟨n, hlo, hhi, hv⟩ := ihv rfl
      exact ⟨n + 1, by omega, within_succ_iff.2 ⟨hne, hhi⟩, _, _, rfl, hu, hv⟩
    | _ => cases hs
  · rintro ⟨n, hlo, hhi, h⟩
    induction n generalizing lo hi w with
    | zero =>
      obtain rfl : lo = 0 := by omega
      rw [show w = [] from h]
      exact .stop
    | succ n ih =>
      obtain ⟨hne, hhi⟩ := within_succ_iff.1 hhi
      obtain ⟨u, v, rfl, hu, hv⟩ := h
      exact .more hne hu (ih (by omega) hhi hv)

/-! ## The empty text -/

theorem nullable_iff (r : Regex) : r.nullable = true ↔ Fits r [] := by
  induction r with
  | empty => simp [nullable, not_fits_empty]
  | epsilon => simp [nullable, fits_epsilon_iff]
  | one set => simp [nullable, fits_one_iff]
  | seq r s ihr ihs =>
    rw [nullable, Bool.and_eq_true, ihr, ihs, fits_seq_iff]
    constructor
    · rintro ⟨hr, hs⟩
      exact ⟨[], [], rfl, hr, hs⟩
    · rintro ⟨u, v, hw, hu, hv⟩
      obtain ⟨rfl, rfl⟩ := List.append_eq_nil_iff.1 hw.symm
      exact ⟨hu, hv⟩
  | alt r s ihr ihs => rw [nullable, Bool.or_eq_true, ihr, ihs, fits_alt_iff]
  | times r lo hi ih =>
    rw [nullable, Bool.or_eq_true, Bool.and_eq_true, ih, decide_eq_true_eq, fits_times_iff]
    constructor
    · rintro (rfl | ⟨hr, hw⟩)
      · exact ⟨0, Nat.le_refl 0, within_zero hi, rfl⟩
      · exact ⟨lo, Nat.le_refl lo, hw, copies_nil_iff.2 (.inr hr)⟩
    · rintro ⟨n, hlo, hhi, h⟩
      rcases copies_nil_iff.1 h with rfl | hr
      · exact .inl (by omega)
      · exact .inr ⟨hr, within_of_le hlo hhi⟩

/-! ## Partial derivatives -/

theorem fits_andThen_iff {r s : Regex} {w : List Char} :
    Fits (andThen r s) w ↔ ∃ u v, w = u ++ v ∧ Fits r u ∧ Fits s v := by
  induction r generalizing w with
  | epsilon =>
    constructor
    · exact fun h => ⟨[], w, rfl, .epsilon, h⟩
    · rintro ⟨u, v, rfl, hu, hv⟩
      rw [fits_epsilon_iff.1 hu]
      exact hv
  | seq p q _ ih =>
    rw [andThen, fits_seq_iff]
    constructor
    · rintro ⟨x, y, rfl, hx, hy⟩
      obtain ⟨u, v, rfl, hu, hv⟩ := ih.1 hy
      exact ⟨x ++ u, v, by rw [List.append_assoc], .seq hx hu, hv⟩
    · rintro ⟨u, v, rfl, hu, hv⟩
      obtain ⟨x, y, rfl, hx, hy⟩ := fits_seq_iff.1 hu
      exact ⟨x, y ++ v, by rw [List.append_assoc], hx, ih.2 ⟨y, v, rfl, hy, hv⟩⟩
  | empty => exact fits_seq_iff
  | one _ => exact fits_seq_iff
  | alt _ _ _ _ => exact fits_seq_iff
  | times _ _ _ _ => exact fits_seq_iff

/-- one of the expressions fits with `s` after it -/
theorem exists_map_andThen {ps : List Regex} {s : Regex} {w : List Char} :
    (∃ p ∈ ps.map (andThen · s), Fits p w) ↔
      ∃ u v, w = u ++ v ∧ (∃ p ∈ ps, Fits p u) ∧ Fits s v := by
  constructor
  · rintro ⟨_, hp, hw⟩
    obtain ⟨p, hmem, rfl⟩ := List.mem_map.1 hp
    obtain ⟨u, v, rfl, hu, hv⟩ := fits_andThen_iff.1 hw
    exact ⟨u, v, rfl, ⟨p, hmem, hu⟩, hv⟩
  · rintro ⟨u, v, rfl, ⟨p, hmem, hu⟩, hv⟩
    exact ⟨_, List.mem_map.2 ⟨p, hmem, rfl⟩, fits_andThen_iff.2 ⟨u, v, rfl, hu, hv⟩⟩

theorem exists_mem_append {ps qs : List Regex} {w : List Char} :
    (∃ p ∈ ps ++ qs, Fits p w) ↔ (∃ p ∈ ps, Fits p w) ∨ ∃ p ∈ qs, Fits p w := by
  constructor
  · rintro ⟨p, hp, hw⟩
    exact (List.mem_append.1 hp).imp (fun h => ⟨p, h, hw⟩) fun h => ⟨p, h, hw⟩
  · rintro (⟨p, hp, hw⟩ | ⟨p, hp, hw⟩)
    · exact ⟨p, List.mem_append.2 (.inl hp), hw⟩
    · exact ⟨p, List.mem_append.2 (.inr hp), hw⟩

/-- a text with a character in front fits exactly if the text fits a partial derivative -/
theorem fits_cons_iff {r : Regex} {c : Char} {w : List Char} :
    Fits r (c :: w) ↔ ∃ p ∈ r.partials c, Fits p w := by
  induction r generalizing w with
  | empty => simp [partials, not_fits_empty]
  | epsilon => simp [partials, fits_epsilon_iff]
  | one set =>
    rw [partials, fits_one_iff]
    by_cases h : set.holds c = true
    · rw [if_pos h]
      constructor
      · rintro ⟨d, _, hw⟩
        exact ⟨.epsilon, List.mem_singleton.2 rfl, (List.cons.inj hw).2 ▸ .epsilon⟩
      · rintro ⟨p, hp, hw⟩
        rw [List.mem_singleton.1 hp, fits_epsilon_iff] at hw
        exact ⟨c, h, by rw [hw]⟩
    · rw [if_neg h]
      constructor
      · rintro ⟨d, hd, hw⟩
        exact absurd ((List.cons.inj hw).1 ▸ hd) h
      · rintro ⟨p, hp, _⟩
        exact absurd hp List.not_mem_nil
  | seq r s ihr ihs =>
    rw [partials, exists_mem_append, exists_map_andThen, fits_seq_iff]
    constructor
    · rintro ⟨u, v, hw, hu, hv⟩
      cases u with
      | nil =>
        rw [List.nil_append] at hw
        subst hw
        rw [if_pos ((nullable_iff r).2 hu)]
        exact .inr (ihs.1 hv)
      | cons d u =>
        obtain ⟨rfl, rfl⟩ := List.cons.inj hw
        exact .inl ⟨u, v, rfl, ihr.1 hu, hv⟩
    · rintro (⟨u, v, rfl, hu, hv⟩ | ⟨p, hp, hw⟩)
      · exact ⟨c :: u, v, rfl, ihr.2 hu, hv⟩
      · split at hp
        · exact ⟨[], c :: w, rfl, (nullable_iff r).1 (by assumption), ihs.2 ⟨p, hp, hw⟩⟩
        · exact absurd hp List.not_mem_nil
  | alt r s ihr ihs => rw [partials, exists_mem_append, fits_alt_iff, ihr, ihs]
  | times r lo hi ih =>
    rw [partials, fits_times_iff]
    by_cases h : hi = some 0
    · rw [if_pos h]
      constructor
      · rintro ⟨n, _, hhi, hw⟩
        obtain ⟨m, rfl, _⟩ := copies_cons_iff.1 hw
        exact absurd h (within_succ_iff.1 hhi).1
      · rintro ⟨p, hp, _⟩
        exact absurd hp List.not_mem_nil
    · rw [if_neg h, exists_map_andThen]
      constructor
      · rintro ⟨n, hlo, hhi, hw⟩
        obtain ⟨m, rfl, u, v, rfl, hu, hv⟩ := copies_cons_iff.1 hw
        exact ⟨u, v, rfl, ih.1 hu,
          fits_times_iff.2 ⟨m, by omega, (within_succ_iff.1 hhi).2, hv⟩⟩
      · rintro ⟨u, v, rfl, hu, hv⟩
        obtain ⟨m, hlo, hhi, hv⟩ := fits_times_iff.1 hv
        exact ⟨m + 1, by omega, within_succ_iff.2 ⟨h, hhi⟩,
          copies_cons_iff.2 ⟨m, rfl, u, v, rfl, ih.2 hu, hv⟩⟩

/-! ## Lists of expressions -/

theorem within_of_boundCovers {hi hi' : Option Nat} {n : Nat} (h : boundCovers hi hi' = true)
    (hn : within n hi' = true) : within n hi = true := by
  cases hi with
  | none => rfl
  | some m =>
    cases hi' with
    | none => simp [boundCovers] at h
    | some k =>
      simp only [boundCovers, within, decide_eq_true_eq] at *
      omega

theorem fits_of_covers {r s : Regex} {w : List Char} (h : r.covers s = true) (hw : Fits s w) :
    Fits r w := by
  induction r, s using covers.induct generalizing w with
  | case1 r lo hi s lo' hi' =>
    simp only [covers, Bool.and_eq_true, decide_eq_true_eq] at h
    obtain ⟨⟨hlo, hhi⟩, rfl⟩ := h
    obtain ⟨n, hn, hb, hc⟩ := fits_times_iff.1 hw
    exact fits_times_iff.2 ⟨n, Nat.le_trans hlo hn, within_of_boundCovers hhi hb, hc⟩
  | case2 r s r' s' ihr ihs =>
    rw [covers, Bool.and_eq_true] at h
    obtain ⟨u, v, rfl, hu, hv⟩ := fits_seq_iff.1 hw
    exact .seq (ihr h.1 hu) (ihs h.2 hv)
  | case3 r s h1 h2 =>
    rw [covers, decide_eq_true_eq] at h
    · exact h ▸ hw
    · exact h1
    · exact h2

theorem exists_thin_iff {kept rs : List Regex} {w : List Char} :
    (∃ r ∈ thin kept rs, Fits r w) ↔ (∃ r ∈ kept, Fits r w) ∨ ∃ r ∈ rs, Fits r w := by
  induction rs generalizing kept with
  | nil => simp [thin]
  | cons s rest ih =>
    rw [thin]
    split
    · rename_i h
      rw [ih]
      obtain ⟨k, hk, hc⟩ := List.any_eq_true.1 h
      constructor
      · rintro (hr | ⟨r, hr, hw⟩)
        · exact .inl hr
        · exact .inr ⟨r, List.mem_cons_of_mem _ hr, hw⟩
      · rintro (hr | ⟨r, hr, hw⟩)
        · exact .inl hr
        · rcases List.mem_cons.1 hr with rfl | hr
          · exact .inl ⟨k, List.mem_of_mem_take hk, fits_of_covers hc hw⟩
          · exact .inr ⟨r, hr, hw⟩
    · rw [ih]
      constructor
      · rintro (⟨r, hr, hw⟩ | ⟨r, hr, hw⟩)
        · rcases List.mem_cons.1 hr with rfl | hr
          · exact .inr ⟨r, List.mem_cons_self, hw⟩
          · exact .inl ⟨r, hr, hw⟩
        · exact .inr ⟨r, List.mem_cons_of_mem _ hr, hw⟩
      · rintro (⟨r, hr, hw⟩ | ⟨r, hr, hw⟩)
        · exact .inl ⟨r, List.mem_cons_of_mem _ hr, hw⟩
        · rcases List.mem_cons.1 hr with rfl | hr
          · exact .inl ⟨r, List.mem_cons_self, hw⟩
          · exact .inr ⟨r, hr, hw⟩

theorem exists_distinct_iff {rs : List Regex} {w : List Char} :
    (∃ r ∈ distinct rs, Fits r w) ↔ ∃ r ∈ rs, Fits r w := by
  rw [distinct, exists_thin_iff]
  constructor
  · rintro (⟨r, hr, _⟩ | ⟨r, hr, hw⟩)
    · exact absurd hr List.not_mem_nil
    · exact ⟨r, (List.mergeSort_perm rs _).mem_iff.1 hr, hw⟩
  · rintro ⟨r, hr, hw⟩
    exact .inr ⟨r, (List.mergeSort_perm rs _).mem_iff.2 hr, hw⟩

theorem anyAccepts_iff (rs : List Regex) (w : List Char) :
    anyAccepts rs w = true ↔ ∃ r ∈ rs, Fits r w := by
  induction w generalizing rs with
  | nil => simp [anyAccepts, nullable_iff]
  | cons c w ih =>
    have hstep : (∃ r ∈ distinct (rs.flatMap (partials c)), Fits r w) ↔
        ∃ r ∈ rs, Fits r (c :: w) := by
      rw [exists_distinct_iff]
      constructor
      · rintro ⟨p, hp, hw⟩
        obtain ⟨r, hr, hpr⟩ := List.mem_flatMap.1 hp
        exact ⟨r, hr, fits_cons_iff.2 ⟨p, hpr, hw⟩⟩
      · rintro ⟨r, hr, hw⟩
        obtain ⟨p, hp, hw⟩ := fits_cons_iff.1 hw
        exact ⟨p, List.mem_flatMap.2 ⟨r, hr, hp⟩, hw⟩
    rw [anyAccepts, Bool.and_eq_true, ih, hstep]
    constructor
    · exact fun h => h.2
    · rintro ⟨r, hr, hw⟩
      refine ⟨?_, r, hr, hw⟩
      cases rs with
      | nil => exact absurd hr List.not_mem_nil
      | cons _ _ => rfl

/-! ## Prepared expressions -/

theorem fits_row_iff {r s : Regex} {w : List Char} : Fits (row r s) w ↔ Fits (.seq r s) w := by
  rw [row]
  split
  · rename_i h
    rw [h, fits_seq_iff]
    constructor
    · exact fun hw => ⟨w, [], (List.append_nil w).symm, hw, .epsilon⟩
    · rintro ⟨u, v, rfl, hu, hv⟩
      rw [fits_epsilon_iff.1 hv, List.append_nil]
      exact hu
  · rfl

/-- whether `k` parts with the upper bound `b` leave room for `m` copies -/
def HasRoom (b : Option Nat) (k m : Nat) : Prop :=
  match b with
  | none => k = 0 → m = 0
  | some n => m ≤ n * k

theorem HasRoom.add {b : Option Nat} {k m n : Nat} (hm : within m b = true) (hn : HasRoom b k n) :
    HasRoom b (k + 1) (m + n) := by
  cases b with
  | none => exact fun h => absurd h (by omega)
  | some b =>
    have hm : m ≤ b := by simpa [within] using hm
    have hn : n ≤ b * k := hn
    have hmul : b * (k + 1) = b * k + b := Nat.mul_succ b k
    show m + n ≤ b * (k + 1)
    omega

/-- copies for one part more fall into those of a first part and those of the others -/
theorem HasRoom.first {a k m : Nat} {b : Option Nat} (ha : a ≤ 1) (hb : b ≠ some 0)
    (hlo : a * (k + 1) ≤ m) (hhi : HasRoom b (k + 1) m) :
    ∃ p q, m = p + q ∧ a ≤ p ∧ within p b = true ∧ a * k ≤ q ∧ HasRoom b k q := by
  have hmul : a * (k + 1) = a * k + a := Nat.mul_succ a k
  cases b with
  | none =>
    refine ⟨m - a * k, a * k, by omega, by omega, rfl, Nat.le_refl _, ?_⟩
    exact fun hk => by rw [hk, Nat.mul_zero]
  | some b =>
    have hpos : 1 ≤ b := by
      cases b with
      | zero => exact absurd rfl hb
      | succ b => omega
    have hhi : m ≤ b * (k + 1) := hhi
    have hbmul : b * (k + 1) = b * k + b := Nat.mul_succ b k
    have hab : a * k ≤ b * k := Nat.mul_le_mul_right k (by omega)
    by_cases h : m - a ≤ b * k
    · refine ⟨a, m - a, by omega, Nat.le_refl a, ?_, by omega, h⟩
      have : a ≤ b := by omega
      simpa [within] using this
    · refine ⟨m - b * k, b * k, by omega, by omega, ?_, hab, Nat.le_refl (b * k)⟩
      have : m - b * k ≤ b := by omega
      simpa [within] using this

/-- parts that are repetitions are copies, as many as all of them together -/
theorem copies_times_iff {s : Regex} {a k : Nat} {b : Option Nat} {w : List Char} (ha : a ≤ 1)
    (hb : b ≠ some 0) :
    Copies (.times s a b) k w ↔ ∃ m, a * k ≤ m ∧ HasRoom b k m ∧ Copies s m w := by
  constructor
  · intro h
    induction k generalizing w with
    | zero =>
      refine ⟨0, Nat.le_refl _, ?_, h⟩
      cases b with
      | none => exact fun _ => rfl
      | some b => exact Nat.zero_le _
    | succ k ih =>
      obtain ⟨u, v, rfl, hu, hv⟩ := h
      obtain ⟨m, hlo, hhi, hu⟩ := fits_times_iff.1 hu
      obtain ⟨n, hlo', hhi', hv⟩ := ih hv
      have hmul : a * (k + 1) = a * k + a := Nat.mul_succ a k
      exact ⟨m + n, by omega, hhi'.add hhi, copies_add hu hv⟩
  · rintro ⟨m, hlo, hhi, h⟩
    induction k generalizing m w with
    | zero =>
      obtain rfl : m = 0 := by
        cases b with
        | none => exact hhi rfl
        | some b => exact Nat.le_zero.1 hhi
      exact h
    | succ k ih =>
      obtain ⟨p, q, rfl, hap, hpb, hq, hqb⟩ := HasRoom.first ha hb hlo hhi
      obtain ⟨u, v, rfl, hu, hv⟩ := copies_split h
      exact ⟨u, v, rfl, fits_times_iff.2 ⟨p, hap, hpb, hu⟩, ih q hq hqb hv⟩

theorem within_boundMul {b hi : Option Nat} {k m : Nat} (hk : within k hi = true)
    (hm : HasRoom b k m) : within m (boundMul b hi) = true := by
  cases b with
  | none => rfl
  | some n =>
    cases hi with
    | none => rfl
    | some h =>
      have hk : k ≤ h := by simpa [within] using hk
      have hm : m ≤ n * h := Nat.le_trans hm (Nat.mul_le_mul_left n hk)
      simpa [within, boundMul] using hm

/-- a number of copies within the bounds of both repetitions comes from a number of parts -/
theorem exists_parts {a lo m : Nat} {b hi : Option Nat} (ha : a ≤ 1) (hb : b ≠ some 0)
    (hne : hi ≠ some 0) (hlohi : within lo hi = true) (hlo : a * lo ≤ m)
    (hm : within m (boundMul b hi) = true) :
    ∃ k, lo ≤ k ∧ within k hi = true ∧ a * k ≤ m ∧ HasRoom b k m := by
  have room {k : Nat} (h : m ≤ k) (hz : k = 0 → m = 0) : HasRoom b k m := by
    cases b with
    | none => exact hz
    | some n =>
      cases n with
      | zero => exact absurd rfl hb
      | succ n => exact Nat.le_trans h (Nat.le_mul_of_pos_left k (Nat.succ_pos n))
  have full {h : Nat} (hh : hi = some h) : HasRoom b h m := by
    subst hh
    cases b with
    | none => exact fun hz => absurd (by rw [hz]) hne
    | some n =>
      have : m ≤ n * h := by simpa [within, boundMul] using hm
      exact this
  obtain rfl | rfl : a = 0 ∨ a = 1 := by omega
  · cases hi with
    | none => exact ⟨lo + m + 1, by omega, rfl, by omega, room (by omega) (by omega)⟩
    | some h =>
      have hlohi : lo ≤ h := by simpa [within] using hlohi
      exact ⟨h, hlohi, by simp [within], by omega, full rfl⟩
  · cases hi with
    | none => exact ⟨m, by omega, rfl, by omega, room (Nat.le_refl m) id⟩
    | some h =>
      have hlohi : lo ≤ h := by simpa [within] using hlohi
      by_cases hmh : m ≤ h
      · exact ⟨m, by omega, by simpa [within] using hmh, by omega, room (Nat.le_refl m) id⟩
      · exact ⟨h, hlohi, by simp [within], by omega, full rfl⟩

theorem fits_copies_iff {r : Regex} {lo : Nat} {hi : Option Nat} {w : List Char} :
    Fits (copies r lo hi) w ↔ Fits (.times r lo hi) w := by
  cases r with
  | times s a b =>
    rw [copies]
    split
    · rename_i h
      obtain ⟨ha, hb, hne, hlohi⟩ := h
      rw [fits_times_iff, fits_times_iff]
      constructor
      · rintro ⟨m, hlo, hm, hw⟩
        obtain ⟨k, hk, hhi, hak, hroom⟩ := exists_parts ha hb hne hlohi hlo hm
        exact ⟨k, hk, hhi, (copies_times_iff ha hb).2 ⟨m, hak, hroom, hw⟩⟩
      · rintro ⟨k, hlo, hhi, hw⟩
        obtain ⟨m, hak, hroom, hw⟩ := (copies_times_iff ha hb).1 hw
        exact ⟨m, Nat.le_trans (Nat.mul_le_mul_left a hlo) hak, within_boundMul hhi hroom, hw⟩
    · rfl
  | _ => rfl

theorem within_of_relaxed {n lo m : Nat} {hi : Option Nat} (hm : m ≤ lo + n)
    (h : within m (relaxed n lo hi) = true) : within m hi = true := by
  cases hi with
  | none => rfl
  | some hi =>
    rw [relaxed] at h
    split at h
    · have : m ≤ hi := by omega
      simpa [within] using this
    · exact h

theorem within_relaxed {n lo m : Nat} {hi : Option Nat} (h : within m hi = true) :
    within m (relaxed n lo hi) = true := by
  cases hi with
  | none => rfl
  | some hi =>
    rw [relaxed]
    split
    · rfl
    · exact h

theorem fits_loosen_iff {n : Nat} {r : Regex} {w : List Char} (hw : w.length ≤ n) :
    Fits (loosen n r) w ↔ Fits r w := by
  cases r with
  | times r lo hi =>
    rw [loosen, fits_times_iff, fits_times_iff]
    constructor
    · rintro ⟨m, hlo, hhi, h⟩
      obtain ⟨k, hlok, hk, h⟩ := copies_bounded h hlo
      by_cases hkm : k ≤ m
      · exact ⟨k, hlok, within_of_relaxed (by omega) (within_of_le hkm hhi), h⟩
      · exact ⟨m, hlo, within_of_relaxed (by omega) hhi, by assumption⟩
    · rintro ⟨m, hlo, hhi, h⟩
      exact ⟨m, hlo, within_relaxed hhi, h⟩
  | _ => rfl

theorem copies_congr {n : Nat} {r s : Regex} (h : ∀ u, u.length ≤ n → (Fits r u ↔ Fits s u))
    {k : Nat} {w : List Char} (hw : w.length ≤ n) : Copies r k w ↔ Copies s k w := by
  induction k generalizing w with
  | zero => rfl
  | succ k ih =>
    constructor
    · rintro ⟨u, v, rfl, hu, hv⟩
      rw [List.length_append] at hw
      exact ⟨u, v, rfl, (h u (by omega)).1 hu, (ih (by omega)).1 hv⟩
    · rintro ⟨u, v, rfl, hu, hv⟩
      rw [List.length_append] at hw
      exact ⟨u, v, rfl, (h u (by omega)).2 hu, (ih (by omega)).2 hv⟩

/-- a prepared expression fits the same texts, as far as they are short enough -/
theorem fits_prepare_iff {n : Nat} {r : Regex} {w : List Char} (hw : w.length ≤ n) :
    Fits (r.prepare n) w ↔ Fits r w := by
  induction r generalizing w with
  | empty => rfl
  | epsilon => rfl
  | one set => rfl
  | seq r s ihr ihs =>
    rw [prepare, fits_row_iff, fits_seq_iff, fits_seq_iff]
    constructor
    · rintro ⟨u, v, rfl, hu, hv⟩
      rw [List.length_append] at hw
      exact ⟨u, v, rfl, (ihr (by omega)).1 hu, (ihs (by omega)).1 hv⟩
    · rintro ⟨u, v, rfl, hu, hv⟩
      rw [List.length_append] at hw
      exact ⟨u, v, rfl, (ihr (by omega)).2 hu, (ihs (by omega)).2 hv⟩
  | alt r s ihr ihs => rw [prepare, fits_alt_iff, fits_alt_iff, ihr hw, ihs hw]
  | times r lo hi ih =>
    rw [prepare, fits_loosen_iff hw, fits_copies_iff, fits_times_iff, fits_times_iff]
    constructor
    · rintro ⟨m, hlo, hhi, h⟩
      exact ⟨m, hlo, hhi, (copies_congr (fun u hu => ih hu) hw).1 h⟩
    · rintro ⟨m, hlo, hhi, h⟩
      exact ⟨m, hlo, hhi, (copies_congr (fun u hu => ih hu) hw).2 h⟩

/-- an expression accepts exactly the texts that fit it -/
theorem accepts_iff_fits (r : Regex) (text : List Char) :
    r.accepts text = true ↔ Fits r text := by
  rw [accepts, anyAccepts_iff, ← fits_prepare_iff (Nat.le_refl text.length)]
  constructor
  · rintro ⟨s, hs, h⟩
    exact List.mem_singleton.1 hs ▸ h
  · exact fun h => ⟨_, List.mem_singleton.2 rfl, h⟩

end MacroFusion.Regex
