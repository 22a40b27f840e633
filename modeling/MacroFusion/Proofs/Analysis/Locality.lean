import MacroFusion.Catalog.AppleM
import MacroFusion.Proofs.Analysis.Balance
import MacroFusion.Proofs.Listing.Grouping

/-!
# Locality: what a scan sees from where it stands

A pair reaches one instruction ahead and a window two, so a scan can be cut in two anywhere, and only
what is found at the last two instructions before the cut depends on what comes after it.

A SIGHTING is what is found at one instruction; it is a matter of the window that begins there.

* `Catalog.sightings`       the sightings of a function, one for each instruction;
* `scanMatches_eq`, `scanMisses_eq`   the scans of a function put its sightings together;
* `window_within`, `window_across`, `window_beyond`   the windows of two lists, one after the other: those
                            that lie in the first, those that reach into the second, and those of the
                            second;
* `sightings_append`        so the sightings of both are cut in the same way;
* `exists_open`             a further line goes to the function that is open, and a header opens another;
* `CutAt`, `cutAt_header`   two listings that differ by a header;
* `scan_append`             both scans at a cut, and what a header can change.
-/

namespace MacroFusion

/-! ## Sightings -/

/-- what is found at one instruction -/
structure Sighting where
  fused : List Match
  missed : List Miss
  deriving DecidableEq, Repr

/-- the same without the name of the function -/
def Sighting.anonymous (s : Sighting) : Sighting where
  fused := s.fused.map fun m => { m with function := "" }
  missed := s.missed.map fun m => { m with function := "" }

namespace Catalog

/-- what is found at the head of a window; an instruction without a successor is never a finding -/
def sighting (c : Catalog) (function : String) : List Instruction → Sighting
  | a :: b :: rest => ⟨c.matchesAt function a b, c.missesAt function a (a :: b :: rest)⟩
  | _ => ⟨[], []⟩

/-- what is found at each instruction of a function -/
def sightings (c : Catalog) (f : Function) : List Sighting :=
  (List.range f.instructions.length).map fun i =>
    c.sighting f.name ((f.instructions.drop i).take Detector.reach)

theorem length_sightings (c : Catalog) (f : Function) :
    (c.sightings f).length = f.instructions.length := by
  rw [sightings, List.length_map, List.length_range]

theorem sightings_cons (c : Catalog) (function : String) (a : Instruction) (is : List Instruction) :
    c.sightings ⟨function, a :: is⟩
      = c.sighting function ((a :: is).take Detector.reach) :: c.sightings ⟨function, is⟩ := by
  show List.map _ (List.range (is.length + 1)) = _
  rw [List.range_succ_eq_map, List.map_cons, List.map_map]
  rfl

/-- **The fused pairs of a function, instruction by instruction.** -/
theorem scanMatches_eq (c : Catalog) (function : String) (is : List Instruction) :
    c.scanMatches function is = (c.sightings ⟨function, is⟩).flatMap (·.fused) := by
  induction is with
  | nil => rfl
  | cons a is ih =>
    rw [sightings_cons, List.flatMap_cons, ← ih]
    cases is with
    | nil => rfl
    | cons b rest => rfl

/-- **The missed opportunities of a function, instruction by instruction.** -/
theorem scanMisses_eq (c : Catalog) (function : String) (is : List Instruction) :
    c.scanMisses function is = (c.sightings ⟨function, is⟩).flatMap (·.missed) := by
  induction is with
  | nil => rfl
  | cons a is ih =>
    rw [sightings_cons, List.flatMap_cons, ← ih]
    cases is with
    | nil => rfl
    | cons b rest => rfl

theorem anonymous_sighting (c : Catalog) (function : String) (window : List Instruction) :
    (c.sighting function window).anonymous = c.sighting "" window := by
  match window with
  | [] => rfl
  | [a] => rfl
  | a :: b :: rest => simp [sighting, Sighting.anonymous, matchesAt, missesAt]

/-- the name of a function is nowhere looked at -/
theorem anonymous_sightings (c : Catalog) (f : Function) :
    (c.sightings f).map Sighting.anonymous = c.sightings { f with name := "" } := by
  rw [sightings, List.map_map]
  apply List.map_congr_left
  intro i _
  exact c.anonymous_sighting f.name _

/-! ## Windows of two lists, one after the other -/

section
variable {A B : List Instruction} {i : Nat}

theorem window_within (h : i + Detector.reach ≤ A.length) :
    ((A ++ B).drop i).take Detector.reach = (A.drop i).take Detector.reach := by
  have hi : i ≤ A.length := by omega
  rw [List.drop_append_of_le_length hi, List.take_append_of_le_length]
  rw [List.length_drop]
  omega

theorem window_across (hi : i ≤ A.length) (h : A.length ≤ i + Detector.reach) :
    ((A ++ B).drop i).take Detector.reach
      = A.drop i ++ B.take (Detector.reach - (A.length - i)) := by
  rw [List.drop_append_of_le_length hi, List.take_append, List.length_drop,
    List.take_of_length_le (by rw [List.length_drop]; omega)]

theorem window_beyond (A B : List Instruction) (i : Nat) :
    (A ++ B).drop (A.length + i) = B.drop i := by
  rw [List.drop_append, List.drop_eq_nil_of_le (by omega), List.nil_append, Nat.add_sub_cancel_left]

end

/-- what is found at the last two instructions of `A`, or at the only one, where `B` comes after it -/
def across (c : Catalog) (function : String) (A B : List Instruction) : List Sighting :=
  (List.range' (A.length - 2) (min 2 A.length)).map fun i =>
    c.sighting function (A.drop i ++ B.take (Detector.reach - (A.length - i)))

/-- **Sightings of two lists, one after the other**: those at the last two instructions of the first
reach into the second, and all others are as they were. -/
theorem sightings_append (c : Catalog) (function : String) (A B : List Instruction) :
    c.sightings ⟨function, A ++ B⟩
      = (c.sightings ⟨function, A⟩).take (A.length - 2) ++ c.across function A B
        ++ c.sightings ⟨function, B⟩ := by
  -- a window of three that starts three or more before the end of `A` stays in `A`
  have hreach : Detector.reach = 3 := rfl
  have hrange : List.range (A.length + B.length)
      = List.range (A.length - 2) ++ List.range' (A.length - 2) (min 2 A.length)
        ++ (List.range B.length).map (A.length + ·) := by
    have hlen : A.length = A.length - 2 + min 2 A.length := by omega
    have hfirst : List.range A.length
        = List.range (A.length - 2) ++ List.range' (A.length - 2) (min 2 A.length) := by
      conv_lhs => rw [hlen]
      rw [List.range_add, List.range'_eq_map_range]
    rw [List.range_add, hfirst]
  show List.map _ (List.range (A ++ B).length) = _
  rw [List.length_append, hrange, List.map_append, List.map_append, List.map_map]
  congr 1
  · congr 1
    · show _ = List.take _ (List.map _ (List.range A.length))
      rw [← List.map_take, List.take_range, Nat.min_eq_left (Nat.sub_le _ _)]
      apply List.map_congr_left
      intro i hi
      have hlt := List.mem_range.mp hi
      rw [window_within (by omega)]
    · apply List.map_congr_left
      intro i hi
      have hmem := List.mem_range'_1.mp hi
      rw [window_across (by omega) (by omega)]
  · apply List.map_congr_left
    intro i _
    show c.sighting function (((A ++ B).drop (A.length + i)).take Detector.reach) = _
    rw [window_beyond]

theorem length_across (c : Catalog) (function : String) (A B : List Instruction) :
    (c.across function A B).length = min 2 A.length := by
  rw [across, List.length_map, List.length_range']

theorem scanMatches_append (c : Catalog) (function : String) {A B : List Instruction} (hA : A ≠ [])
    (hB : B ≠ []) :
    c.scanMatches function (A ++ B)
      = c.scanMatches function A ++ c.matchesAt function (A.getLast hA) (B.head hB)
        ++ c.scanMatches function B := by
  obtain ⟨b, B, rfl⟩ := List.exists_cons_of_ne_nil hB
  -- the pair at the seam comes up when one instruction of `A` is left
  induction A with
  | nil => exact absurd rfl hA
  | cons a A ih =>
    cases A with
    | nil => rfl
    | cons a' A =>
      show c.matchesAt function a a' ++ c.scanMatches function (a' :: A ++ b :: B) = _
      rw [ih (List.cons_ne_nil a' A), List.getLast_cons (List.cons_ne_nil a' A)]
      show _ = c.matchesAt function a a' ++ c.scanMatches function (a' :: A) ++ _ ++ _
      simp only [List.append_assoc]

end Catalog

/-! ## A header more -/

namespace Listing

def sightings (c : Catalog) (l : Listing) : List Sighting := l.functions.flatMap c.sightings

/-- the functions of some lines, where the orphans make one even if there are none -/
def grouped (ls : List Line) : List Function :=
  { name := unnamed, instructions := (group ls).1 } :: (group ls).2

theorem sightings_ofLines (c : Catalog) (ls : List Line) :
    (ofLines ls).sightings c = (grouped ls).flatMap c.sightings := by
  by_cases h : (group ls).1 = []
  · rw [ofLines_of_group_nil h, grouped, h]
    rfl
  · rw [ofLines_of_group_ne_nil h]
    rfl

/-- **The open function**: behind lines `ks`, further instructions go to the function `f` until a header
comes, and the functions before it are complete. -/
theorem exists_open (ks : List Line) :
    ∃ (before : List Function) (f : Function),
      (instructionsIn ks).length = (before.flatMap (·.instructions)).length + f.instructions.length
      ∧ ∀ ls, grouped (ks ++ ls)
        = before ++ { f with instructions := f.instructions ++ (group ls).1 } :: (group ls).2 := by
  induction ks using List.reverseRecOn with
  | nil => exact ⟨[], ⟨unnamed, []⟩, rfl, fun ls => rfl⟩
  | append_singleton ks k ih =>
    obtain ⟨before, f, hlen, hall⟩ := ih
    have hstep : ∀ ls, grouped (ks ++ [k] ++ ls) = before
        ++ { f with instructions := f.instructions ++ (group (k :: ls)).1 } :: (group (k :: ls)).2 := by
      intro ls
      rw [List.append_assoc]
      exact hall (k :: ls)
    have hcount : (instructionsIn (ks ++ [k])).length
        = (instructionsIn ks).length + (instructionsIn [k]).length := by
      rw [instructionsIn_append, List.length_append]
    cases k with
    | header name =>
      refine ⟨before ++ [f], ⟨name, []⟩, ?_, fun ls => ?_⟩
      · rw [hcount, hlen, List.flatMap_append, List.length_append]
        simp [instructionsIn, Line.held?]
      · rw [hstep ls, group_header]
        simp
    | instruction i =>
      refine ⟨before, { f with instructions := f.instructions ++ [i] }, ?_, fun ls => ?_⟩
      · rw [hcount, hlen, List.length_append]
        simp [instructionsIn, Line.held?, Nat.add_assoc]
      · rw [hstep ls, group_instruction]
        simp
    | noise =>
      refine ⟨before, f, ?_, fun ls => ?_⟩
      · rw [hcount, hlen]
        rfl
      · rw [hstep ls, group_noise]

end Listing

/-- a header before instruction number `n`, with `m` instructions under it, changes what is found at the
two instructions before it, and the name of the function for those under it -/
structure CutAt (n m : Nat) (ss ts : List Sighting) : Prop where
  length_eq : ts.length = ss.length
  before_eq : ts.take (n - 2) = ss.take (n - 2)
  under_eq : ((ts.drop n).take m).map Sighting.anonymous = ((ss.drop n).take m).map Sighting.anonymous
  after_eq : ts.drop (n + m) = ss.drop (n + m)

theorem CutAt.of_parts {n m : Nat} {kept ss ts under under' after : List Sighting}
    (hkept : n - 2 ≤ kept.length) (hs : (kept ++ ss).length = n) (ht : (kept ++ ts).length = n)
    (hm : under.length = m) (hunder : under'.map Sighting.anonymous = under.map Sighting.anonymous) :
    CutAt n m (kept ++ ss ++ (under ++ after)) (kept ++ ts ++ (under' ++ after)) := by
  have hm' : under'.length = m := by
    have h := congrArg List.length hunder
    rw [List.length_map, List.length_map] at h
    omega
  refine ⟨?_, ?_, ?_, ?_⟩
  · rw [List.length_append, ht, List.length_append, hm', List.length_append, hs, List.length_append, hm]
  · rw [List.append_assoc, List.append_assoc, List.take_append_of_le_length hkept,
      List.take_append_of_le_length hkept]
  · rw [List.drop_left' hs, List.drop_left' ht, List.take_left' hm, List.take_left' hm', hunder]
  · rw [← List.drop_drop, ← List.drop_drop, List.drop_left' hs, List.drop_left' ht, List.drop_left' hm,
      List.drop_left' hm']

/-- a function is cut in two by a header, with other functions around it -/
theorem Catalog.cutAt_append (c : Catalog) (name name' : String) (A B : List Instruction)
    (before after : List Sighting) :
    CutAt (before.length + A.length) B.length
      (before ++ (c.sightings ⟨name, A ++ B⟩ ++ after))
      (before ++ (c.sightings ⟨name, A⟩ ++ (c.sightings ⟨name', B⟩ ++ after))) := by
  let kept := before ++ (c.sightings ⟨name, A⟩).take (A.length - 2)
  have hA : (c.sightings ⟨name, A⟩).length = A.length := c.length_sightings _
  have hkept : kept.length = before.length + (A.length - 2) := by
    rw [List.length_append, List.length_take, hA, Nat.min_eq_left (Nat.sub_le _ _)]
  have hwhole : before ++ (c.sightings ⟨name, A ++ B⟩ ++ after)
      = kept ++ c.across name A B ++ (c.sightings ⟨name, B⟩ ++ after) := by
    rw [c.sightings_append]
    simp only [kept, List.append_assoc]
  -- without `B`, the last two of `A` have the windows that they have at the end of a function
  have hcut : before ++ (c.sightings ⟨name, A⟩ ++ (c.sightings ⟨name', B⟩ ++ after))
      = kept ++ (c.sightings ⟨name, A⟩).drop (A.length - 2) ++ (c.sightings ⟨name', B⟩ ++ after) := by
    conv_lhs => rw [← List.take_append_drop (A.length - 2) (c.sightings ⟨name, A⟩)]
    simp only [kept, List.append_assoc]
  rw [hwhole, hcut]
  apply CutAt.of_parts
  · omega
  · rw [List.length_append, c.length_across]
    omega
  · rw [List.length_append, List.length_drop]
    omega
  · exact c.length_sightings _
  · rw [anonymous_sightings, anonymous_sightings]

/-- **One header more** can change what is found at the two instructions before it, and the name of the
function for those under it. -/
theorem Listing.cutAt_header (c : Catalog) (ks ls : List Line) (name : String) :
    CutAt (instructionsIn ks).length (group ls).1.length ((ofLines (ks ++ ls)).sightings c)
      ((ofLines (ks ++ .header name :: ls)).sightings c) := by
  obtain ⟨before, f, hlen, hall⟩ := exists_open ks
  have hbefore : (before.flatMap c.sightings).length = (before.flatMap (·.instructions)).length := by
    rw [List.length_flatMap, List.length_flatMap]
    simp only [Catalog.length_sightings]
  rw [sightings_ofLines, sightings_ofLines, hall, hall, group_header, hlen, ← hbefore,
    List.flatMap_append, List.flatMap_append, List.flatMap_cons, List.flatMap_cons, List.flatMap_cons,
    List.append_nil]
  exact c.cutAt_append f.name name f.instructions (group ls).1 _ _

namespace Analysis

/-- the records of an unfiltered analysis, instruction by instruction -/
theorem records_eq (c : Catalog) (workers : Nat) (l : Listing) :
    (run c workers l.functions none l.lowConfidence l.warnings).fused
      = (l.sightings c).flatMap (·.fused)
    ∧ (run c workers l.functions none l.lowConfidence l.warnings).missed
      = (l.sightings c).flatMap (·.missed) := by
  rw [run_eq, select, fused_ofFunctions, missed_ofFunctions, Listing.sightings, List.flatMap_assoc,
    List.flatMap_assoc]
  constructor
  · simp only [c.scanMatches_eq]
  · simp only [c.scanMisses_eq]

end Analysis

namespace Catalog

/-- **Scanning is local.**  The fused pairs of `A ++ B` are those of `A`, those of the last instruction of
`A` with the first of `B`, and those of `B`; the missed opportunities are those of `A` except at its last
two instructions, those at these two with windows that reach into `B`, and those of `B`.  So a header
more in a listing can change what is found at the two instructions before it, and nothing else but the
name of the function under it. -/
theorem scan_append (c : Catalog) (function : String) (A B : List Instruction) (hA : A ≠ [])
    (hB : B ≠ []) :
    (c.scan ⟨function, A ++ B⟩).fused
      = (c.scan ⟨function, A⟩).fused ++ c.matchesAt function (A.getLast hA) (B.head hB)
        ++ (c.scan ⟨function, B⟩).fused
    ∧ (c.scan ⟨function, A ++ B⟩).missed
      = ((c.sightings ⟨function, A⟩).take (A.length - 2)).flatMap (·.missed)
        ++ (c.across function A B).flatMap (·.missed)
        ++ (c.scan ⟨function, B⟩).missed
    ∧ (∀ f, (c.scan f).fused = (c.sightings f).flatMap (·.fused)
      ∧ (c.scan f).missed = (c.sightings f).flatMap (·.missed))
    ∧ (∀ (ks ls : List Line) (name : String),
      CutAt (Listing.instructionsIn ks).length (Listing.group ls).1.length
        ((Listing.ofLines (ks ++ ls)).sightings c)
        ((Listing.ofLines (ks ++ .header name :: ls)).sightings c))
    ∧ ∀ (workers : Nat) (l : Listing),
      (Analysis.run c workers l.functions none l.lowConfidence l.warnings).fused
        = (l.sightings c).flatMap (·.fused)
      ∧ (Analysis.run c workers l.functions none l.lowConfidence l.warnings).missed
        = (l.sightings c).flatMap (·.missed) := by
  refine ⟨?_, ?_, fun f => ⟨?_, ?_⟩, Listing.cutAt_header c, Analysis.records_eq c⟩
  · rw [fused_scan, fused_scan, fused_scan]
    exact c.scanMatches_append function hA hB
  · rw [missed_scan, missed_scan, scanMisses_eq, scanMisses_eq, sightings_append, List.flatMap_append,
      List.flatMap_append]
  · rw [fused_scan, scanMatches_eq]
  · rw [missed_scan, scanMisses_eq]

def comparisonThenAddition : List Instruction :=
  [⟨"0", "CMP", "x0, x1", "cmp"⟩, ⟨"4", "ADD", "x2, x2, #1", "add"⟩]

def twoBranches : List Instruction := [⟨"8", "B.EQ", "20", "b.eq"⟩, ⟨"c", "B.NE", "24", "b.ne"⟩]

/-- neither part has a finding of its own: one pair is fused at the seam, and one window reaches across
it -/
theorem scan_append_seam :
    comparisonThenAddition ≠ [] ∧ twoBranches ≠ []
    ∧ (appleM.scan ⟨"f", comparisonThenAddition ++ twoBranches⟩).fused
      = (appleM.scan ⟨"f", comparisonThenAddition⟩).fused
        ++ appleM.matchesAt "f" ⟨"4", "ADD", "x2, x2, #1", "add"⟩ ⟨"8", "B.EQ", "20", "b.eq"⟩
        ++ (appleM.scan ⟨"f", twoBranches⟩).fused
    ∧ (appleM.matchesAt "f" ⟨"4", "ADD", "x2, x2, #1", "add"⟩ ⟨"8", "B.EQ", "20", "b.eq"⟩).map (·.rule)
      = ["ADD+B.cond"]
    ∧ (appleM.scan ⟨"f", comparisonThenAddition ++ twoBranches⟩).missed
      = (appleM.across "f" comparisonThenAddition twoBranches).flatMap (·.missed)
    ∧ (appleM.across "f" comparisonThenAddition twoBranches).map (·.missed.map (·.pattern))
      = [["CMP separated from B.cond"], []] := by
  have hA : comparisonThenAddition ≠ [] := List.cons_ne_nil _ _
  have hB : twoBranches ≠ [] := List.cons_ne_nil _ _
  obtain ⟨hfused, hmissed, -⟩ := scan_append appleM "f" comparisonThenAddition twoBranches hA hB
  refine ⟨hA, hB, hfused, by decide +kernel, ?_, by decide +kernel⟩
  have hlast : (appleM.scan ⟨"f", twoBranches⟩).missed = [] := by decide +kernel
  have hnone : comparisonThenAddition.length - 2 = 0 := rfl
  rw [hmissed, hlast, hnone, List.take_zero, List.flatMap_nil, List.nil_append, List.append_nil]

end Catalog

end MacroFusion
