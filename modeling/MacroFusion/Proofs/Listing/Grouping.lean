import MacroFusion.Listing.Basic

/-!
# Grouping: which function every line belongs to

Classified lines fall apart at their headers into a preamble without a header and SECTIONS, each a
header with the lines up to the next one.  A `Division` is such a cut.  It does not mention functions,
so it can say what the functions of a listing have to be:

* `Division.ofLines`     every list of lines has a division;
* `group`                the functions of some lines, collected from the end, so that every header finds the
                         instructions that belong to it;
* `listing_foldl_open`, `ofLines_of_group_nil`, `ofLines_of_group_ne_nil`   reading forward with one function
                         open at a time gives the same;
* `group_division`       grouping gives one function per section, with the instructions of its body,
                         and the instructions of the preamble on their own;
* `grouping_ofLines`     the listing that the lines make up, field by field (`Grouping`);
* `read_grouping`        a text is refused exactly if no line of it is an instruction line, and gives
                         that listing otherwise.

The induction is always on the lines, one case for each kind of line.
-/

namespace MacroFusion

namespace Line

def isHeader : Line → Bool
  | .header _ => true
  | _ => false

/-- the name on a header line -/
def name? : Line → Option String
  | .header name => some name
  | _ => none

/-- the instruction on an instruction line -/
def held? : Line → Option Instruction
  | .instruction i => some i
  | _ => none

theorem isSome_held? (l : Line) : l.held?.isSome = l.isInstruction := by cases l <;> rfl

end Line

namespace Listing

/-! ## Divisions -/

/-- the lines of a text, each read on its own -/
def classified (text : String) : List Line := (Text.lines text.toList).map Line.read

/-- the instructions on some lines, in their order -/
def instructionsIn (ls : List Line) : List Instruction := ls.filterMap Line.held?

/-- the names on the headers among some lines, in their order -/
def namesIn (ls : List Line) : List String := ls.filterMap Line.name?

/-- a header and lines after it without a further header -/
structure Section where
  name : String
  body : List Line
  headless : ∀ l ∈ body, l.isHeader = false

namespace Section

def lines (s : Section) : List Line := .header s.name :: s.body

/-- the function that a section stands for -/
def function (s : Section) : Function := { name := s.name, instructions := instructionsIn s.body }

end Section

/-- lines cut at their headers -/
structure Division (ls : List Line) where
  preamble : List Line
  sections : List Section
  headless : ∀ l ∈ preamble, l.isHeader = false
  whole : preamble ++ sections.flatMap Section.lines = ls

theorem headless_cons {l : Line} {ls : List Line} (h : l.isHeader = false)
    (hs : ∀ k ∈ ls, k.isHeader = false) : ∀ k ∈ l :: ls, k.isHeader = false := by
  intro k hk
  rcases List.mem_cons.mp hk with rfl | hk
  · exact h
  · exact hs k hk

namespace Division

/-- a header takes the preamble of the lines after it as its body -/
def addHeader {ls : List Line} (name : String) (d : Division ls) : Division (.header name :: ls) where
  preamble := []
  sections := ⟨name, d.preamble, d.headless⟩ :: d.sections
  headless := by simp
  whole := by
    rw [List.nil_append, List.flatMap_cons]
    show .header name :: (d.preamble ++ d.sections.flatMap Section.lines) = _
    rw [d.whole]

/-- any other line goes in front of the preamble -/
def addLine {ls : List Line} (l : Line) (h : l.isHeader = false) (d : Division ls) :
    Division (l :: ls) where
  preamble := l :: d.preamble
  sections := d.sections
  headless := headless_cons h d.headless
  whole := by rw [List.cons_append, d.whole]

/-- the division of some lines -/
def ofLines : (ls : List Line) → Division ls
  | [] => ⟨[], [], by simp, rfl⟩
  | .header name :: ls => (ofLines ls).addHeader name
  | .instruction i :: ls => (ofLines ls).addLine (.instruction i) rfl
  | .noise :: ls => (ofLines ls).addLine .noise rfl

/-- the functions that a division stands for: one per section, and one more in front if there are
instructions before the first header -/
def functions {ls : List Line} (d : Division ls) : List Function :=
  (if instructionsIn d.preamble = [] then []
    else [{ name := unnamed, instructions := instructionsIn d.preamble }])
  ++ d.sections.map Section.function

end Division

/-! ## Grouping along a division -/

theorem instructionsIn_append (ks ls : List Line) :
    instructionsIn (ks ++ ls) = instructionsIn ks ++ instructionsIn ls := List.filterMap_append

/-- the instructions before the first header, and the functions from there on -/
def group : List Line → List Instruction × List Function
  | [] => ([], [])
  | .header name :: rest =>
    let (own, functions) := group rest
    ([], { name, instructions := own } :: functions)
  | .instruction i :: rest =>
    let (own, functions) := group rest
    (i :: own, functions)
  | .noise :: rest => group rest

theorem group_nil : group [] = ([], []) := rfl

theorem group_header (name : String) (rest : List Line) :
    group (.header name :: rest)
      = ([], { name, instructions := (group rest).1 } :: (group rest).2) := rfl

theorem group_instruction (i : Instruction) (rest : List Line) :
    group (.instruction i :: rest) = (i :: (group rest).1, (group rest).2) := rfl

theorem group_noise (rest : List Line) : group (.noise :: rest) = group rest := rfl

/-- lines without a header leave the functions after them alone -/
theorem group_append_of_headless (ks ls : List Line) (h : ∀ l ∈ ks, l.isHeader = false) :
    group (ks ++ ls) = (instructionsIn ks ++ (group ls).1, (group ls).2) := by
  induction ks with
  | nil => rfl
  | cons k ks ih =>
    have ih' := ih (fun l hl => h l (List.mem_cons_of_mem _ hl))
    have hk := h k List.mem_cons_self
    cases k with
    | header name => exact absurd hk (by simp [Line.isHeader])
    | instruction i =>
      show group (.instruction i :: (ks ++ ls)) = _
      rw [group_instruction, ih']
      rfl
    | noise =>
      show group (.noise :: (ks ++ ls)) = _
      rw [group_noise, ih']
      rfl

theorem group_sections (ss : List Section) :
    group (ss.flatMap Section.lines) = ([], ss.map Section.function) := by
  induction ss with
  | nil => rfl
  | cons s ss ih =>
    rw [List.flatMap_cons]
    show group (.header s.name :: (s.body ++ ss.flatMap Section.lines)) = _
    rw [group_header, group_append_of_headless _ _ s.headless, ih, List.append_nil]
    rfl

/-- **Grouping follows the division**: the preamble gives the orphans, each section its function. -/
theorem group_division {ls : List Line} (d : Division ls) :
    group ls = (instructionsIn d.preamble, d.sections.map Section.function) := by
  have h := group_append_of_headless d.preamble (d.sections.flatMap Section.lines) d.headless
  rw [d.whole, group_sections, List.append_nil] at h
  exact h

/-! ## What grouping keeps -/

/-- whether some instruction line comes before the first header -/
def orphaned (ls : List Line) : Bool :=
  (ls.takeWhile fun l => !l.isHeader).any (·.isInstruction)

/-- instructions before the first header are what makes the first part of a grouping -/
theorem orphaned_eq (ls : List Line) : orphaned ls = !(group ls).1.isEmpty := by
  induction ls with
  | nil => rfl
  | cons l ls ih =>
    cases l with
    | header name => rfl
    | instruction i => rfl
    | noise =>
      rw [group_noise, ← ih]
      rfl

theorem names_group (ls : List Line) : (group ls).2.map (·.name) = namesIn ls := by
  induction ls with
  | nil => rfl
  | cons l ls ih =>
    cases l with
    | header name =>
      rw [group_header, List.map_cons, ih]
      rfl
    | instruction i => exact ih
    | noise => exact ih

/-- no instruction is lost, doubled or moved past another -/
theorem instructions_group (ls : List Line) :
    (group ls).1 ++ (group ls).2.flatMap (·.instructions) = instructionsIn ls := by
  have h := group_division (Division.ofLines ls)
  have hs : ∀ ss : List Section, (ss.map Section.function).flatMap (·.instructions)
      = instructionsIn (ss.flatMap Section.lines) := by
    intro ss
    induction ss with
    | nil => rfl
    | cons s ss ih =>
      rw [List.map_cons, List.flatMap_cons, List.flatMap_cons, instructionsIn_append, ih]
      rfl
  rw [h]
  show instructionsIn _ ++ _ = _
  rw [hs, ← instructionsIn_append, (Division.ofLines ls).whole]

theorem length_instructionsIn (ls : List Line) :
    (instructionsIn ls).length = ls.countP (·.isInstruction) := by
  rw [instructionsIn, List.length_filterMap_eq_countP]
  exact List.countP_congr fun l _ => by rw [Line.isSome_held?]

/-- the three kinds of lines make up all of them -/
theorem countP_kinds (ls : List Line) :
    ls.countP (·.isHeader) + ls.countP (·.isInstruction) + ls.countP (·.isNoise) = ls.length := by
  induction ls with
  | nil => rfl
  | cons l ls ih =>
    have hl : (if l.isHeader = true then 1 else 0) + (if l.isInstruction = true then 1 else 0)
        + (if l.isNoise = true then 1 else 0) = 1 := by cases l <;> rfl
    rw [List.countP_cons, List.countP_cons, List.countP_cons, List.length_cons]
    omega

theorem exists_of_isInstruction {l : Line} (h : l.isInstruction = true) :
    ∃ i, l = .instruction i := by
  cases l with
  | instruction i => exact ⟨i, rfl⟩
  | header name => exact absurd h (by simp [Line.isInstruction])
  | noise => exact absurd h (by simp [Line.isInstruction])

/-- the lines around the first instruction line -/
theorem exists_first_instruction (ls : List Line) (h : ∃ l ∈ ls, l.isInstruction = true) :
    ∃ before i after, ls = before ++ .instruction i :: after
      ∧ (∀ l ∈ before, l.isInstruction = false)
      ∧ ls.findIdx (·.isInstruction) = before.length := by
  have hlt : ls.findIdx (·.isInstruction) < ls.length := List.findIdx_lt_length_of_exists h
  obtain ⟨i, hi⟩ := exists_of_isInstruction (List.findIdx_getElem (w := hlt))
  refine ⟨ls.take (ls.findIdx (·.isInstruction)), i, ls.drop (ls.findIdx (·.isInstruction) + 1),
    ?_, ?_, ?_⟩
  · rw [← hi, ← List.drop_eq_getElem_cons hlt, List.take_append_drop]
  · intro l hl
    obtain ⟨j, hj, rfl⟩ := List.mem_take_iff_getElem.mp hl
    have hj' : j < ls.findIdx (·.isInstruction) := by omega
    simpa using List.not_of_lt_findIdx hj'
  · rw [List.length_take]
    omega

/-! ## The listing that lines make up -/

/-- Once a function is open, the instructions up to the next header go to it, and every header after them
opens a function. -/
theorem listing_foldl_open (ls : List Line) (name : String) (own : List Instruction) {r : Reading}
    (h : r.current = some (name, own)) :
    (ls.foldl Reading.step r).listing =
      { functions := r.closed.reverse
          ++ { name, instructions := own.reverse ++ (group ls).1 } :: (group ls).2
        lowConfidence := r.lowConfidence
        warnings := r.warnings
        linesRead := r.linesRead + ls.length
        skippedLines := r.skippedLines + ls.countP (·.isNoise) } := by
  induction ls generalizing r name own with
  | nil => simp [Reading.listing, Reading.functions, h, group_nil]
  | cons l ls ih =>
    cases l with
    | header next =>
      rw [List.foldl_cons, ih next [] rfl, group_header]
      simp +arith [Reading.step, Reading.functions, h, Line.isNoise]
    | instruction i =>
      have hcurrent : (r.step (.instruction i)).current = some (name, i :: own) := by
        simp [Reading.step, h]
      rw [List.foldl_cons, ih name (i :: own) hcurrent, group_instruction]
      simp +arith [Reading.step, h, Line.isNoise]
    | noise =>
      have hcurrent : (r.step .noise).current = some (name, own) := h
      rw [List.foldl_cons, ih name own hcurrent, group_noise]
      simp +arith [Reading.step, Line.isNoise]

/-- Before that, lines are skipped up to the first header or instruction. -/
theorem listing_foldl_skipping (ls : List Line) (linesRead skippedLines : Nat) :
    (ls.foldl Reading.step { linesRead, skippedLines }).listing =
      if (group ls).1 = [] then
        { functions := (group ls).2, linesRead := linesRead + ls.length
          skippedLines := skippedLines + ls.countP (·.isNoise) }
      else
        { functions := { name := unnamed, instructions := (group ls).1 } :: (group ls).2
          lowConfidence := true
          warnings := [(orphanWarning (linesRead + ls.findIdx (·.isInstruction) + 1)).message]
          linesRead := linesRead + ls.length
          skippedLines := skippedLines + ls.countP (·.isNoise) } := by
  induction ls generalizing linesRead skippedLines with
  | nil => rfl
  | cons l ls ih =>
    cases l with
    | header name =>
      rw [List.foldl_cons, listing_foldl_open ls name [] rfl, group_header, if_pos rfl]
      simp +arith [Reading.step, Reading.functions, Line.isNoise]
    | instruction i =>
      rw [List.foldl_cons, listing_foldl_open ls unnamed [i] rfl, group_instruction,
        if_neg (List.cons_ne_nil _ _)]
      simp +arith [Reading.step, Line.isNoise, Line.isInstruction, List.findIdx_cons]
    | noise =>
      have hstep : Reading.step { linesRead, skippedLines } .noise
          = { linesRead := linesRead + 1, skippedLines := skippedLines + 1 } := rfl
      have hlength : linesRead + (Line.noise :: ls).length = linesRead + 1 + ls.length := by
        rw [List.length_cons]
        omega
      have hskipped : skippedLines + (Line.noise :: ls).countP (·.isNoise)
          = skippedLines + 1 + ls.countP (·.isNoise) := by
        rw [List.countP_cons_of_pos rfl]
        omega
      have hfirst : linesRead + (Line.noise :: ls).findIdx (·.isInstruction)
          = linesRead + 1 + ls.findIdx (·.isInstruction) := by
        have hcons : (Line.noise :: ls).findIdx (·.isInstruction) = ls.findIdx (·.isInstruction) + 1 :=
          List.findIdx_cons
        omega
      rw [List.foldl_cons, hstep, ih, group_noise, hlength, hskipped, hfirst]

theorem ofLines_of_group_nil {ls : List Line} (h : (group ls).1 = []) :
    ofLines ls = { functions := (group ls).2, linesRead := ls.length
                   skippedLines := ls.countP (·.isNoise) } := by
  have hread := listing_foldl_skipping ls 0 0
  rw [if_pos h, Nat.zero_add, Nat.zero_add] at hread
  exact hread

theorem ofLines_of_group_ne_nil {ls : List Line} (h : (group ls).1 ≠ []) :
    ofLines ls = { functions := { name := unnamed, instructions := (group ls).1 } :: (group ls).2
                   lowConfidence := true
                   warnings := [(orphanWarning (ls.findIdx (·.isInstruction) + 1)).message]
                   linesRead := ls.length
                   skippedLines := ls.countP (·.isNoise) } := by
  have hread := listing_foldl_skipping ls 0 0
  rw [if_neg h, Nat.zero_add, Nat.zero_add, Nat.zero_add] at hread
  exact hread

theorem message_orphanWarning (n : Nat) :
    (orphanWarning n).message = "Instruction at line " ++ toString n
      ++ " appears before any function header; collecting under 'unnamed'" := by
  have h : " appears before any function header; collecting under '" ++ unnamed ++ "'"
      = " appears before any function header; collecting under 'unnamed'" := by decide
  rw [← h, ← String.append_assoc, ← String.append_assoc]
  rfl

/-- **What the lines say about the listing**, one fact for each of its fields. -/
structure Grouping (ls : List Line) (l : Listing) : Prop where
  /-- every function has the instructions between its header and the next one -/
  functions_eq : ∀ d : Division ls, l.functions = d.functions
  functionNames_eq : l.functionNames = (if orphaned ls then [unnamed] else []) ++ namesIn ls
  /-- every instruction line is in one function, and only once -/
  instructions_eq : l.functions.flatMap (·.instructions) = instructionsIn ls
  lowConfidence_eq : l.lowConfidence = orphaned ls
  linesRead_eq : l.linesRead = ls.length
  /-- every line is a header, an instruction or skipped -/
  linesRead_sum :
    l.linesRead = ls.countP (·.isHeader) + ls.countP (·.isInstruction) + l.skippedLines
  /-- the one warning names the line of the first instruction -/
  warnings_of_orphaned : orphaned ls = true → ∃ before i after,
    ls = before ++ .instruction i :: after ∧ (∀ k ∈ before, k.isInstruction = false)
      ∧ l.warnings = ["Instruction at line " ++ toString (before.length + 1)
        ++ " appears before any function header; collecting under 'unnamed'"]
  warnings_of_not_orphaned : orphaned ls = false → l.warnings = []

theorem grouping_of_group_nil {ls : List Line} (h : (group ls).1 = []) :
    Grouping ls (ofLines ls) := by
  have ho : orphaned ls = false := by rw [orphaned_eq, h]; rfl
  rw [ofLines_of_group_nil h]
  refine ⟨?_, ?_, ?_, ho.symm, rfl, (countP_kinds ls).symm, ?_, fun _ => rfl⟩
  · intro d
    have hd := group_division d
    have h1 : instructionsIn d.preamble = [] := by rw [← h, hd]
    show (group ls).2 = _
    rw [Division.functions, if_pos h1, hd]
    rfl
  · rw [ho]
    exact names_group ls
  · have := instructions_group ls
    rwa [h, List.nil_append] at this
  · intro ht
    rw [ho] at ht
    exact absurd ht (by simp)

theorem grouping_of_group_ne_nil {ls : List Line} (h : (group ls).1 ≠ []) :
    Grouping ls (ofLines ls) := by
  have ho : orphaned ls = true := by rw [orphaned_eq]; simpa using h
  rw [ofLines_of_group_ne_nil h]
  refine ⟨?_, ?_, instructions_group ls, ho.symm, rfl, (countP_kinds ls).symm, ?_, ?_⟩
  · intro d
    have hd := group_division d
    have h1 : instructionsIn d.preamble ≠ [] := by
      intro he
      rw [hd] at h
      exact h he
    rw [Division.functions, if_neg h1, hd]
    rfl
  · rw [ho]
    show unnamed :: (group ls).2.map (·.name) = _
    rw [names_group]
    rfl
  · intro _
    have hex : ∃ l ∈ ls, l.isInstruction = true := by
      obtain ⟨l, hl, hi⟩ := List.any_eq_true.mp ho
      exact ⟨l, (List.takeWhile_sublist _).subset hl, hi⟩
    obtain ⟨before, i, after, hls, hb, hidx⟩ := exists_first_instruction ls hex
    refine ⟨before, i, after, hls, hb, ?_⟩
    show [(orphanWarning _).message] = _
    rw [message_orphanWarning, hidx]
  · intro hf
    rw [ho] at hf
    exact absurd hf (by simp)

theorem grouping_ofLines (ls : List Line) : Grouping ls (ofLines ls) := by
  by_cases h : (group ls).1 = []
  · exact grouping_of_group_nil h
  · exact grouping_of_group_ne_nil h

/-! ## Reading a text -/

theorem read_eq (text : String) :
    read text = if (ofLines (classified text)).instructionCount = 0 then
        .error (.noInstructionLines (ofLines (classified text)).linesRead)
      else .ok (ofLines (classified text)) := rfl

theorem instructionCount_ofLines (ls : List Line) :
    (ofLines ls).instructionCount = ls.countP (·.isInstruction) := by
  rw [← length_instructionsIn, ← (grouping_ofLines ls).instructions_eq]
  rfl

theorem read_of_no_instruction {text : String}
    (h : ∀ l ∈ classified text, l.isInstruction = false) :
    read text = .error (.noInstructionLines (classified text).length) := by
  have h0 : (ofLines (classified text)).instructionCount = 0 := by
    rw [instructionCount_ofLines, List.countP_eq_zero]
    intro l hl
    rw [h l hl]
    exact Bool.false_ne_true
  rw [read_eq, if_pos h0, (grouping_ofLines _).linesRead_eq]

theorem read_of_instruction {text : String}
    (h : ∃ l ∈ classified text, l.isInstruction = true) :
    read text = .ok (ofLines (classified text)) := by
  have h0 : (ofLines (classified text)).instructionCount ≠ 0 := by
    rw [instructionCount_ofLines, ← Nat.pos_iff_ne_zero, List.countP_pos_iff]
    exact h
  rw [read_eq, if_neg h0]

/-- **Reading a text.**  It is refused exactly if no line of it is an instruction line; any other text
gives the listing that groups its lines. -/
theorem read_grouping (text : String) :
    (read text = .error (.noInstructionLines (classified text).length)
      ↔ ∀ l ∈ classified text, l.isInstruction = false)
    ∧ ((∃ l ∈ classified text, l.isInstruction = true)
      ↔ ∃ l, read text = .ok l ∧ Grouping (classified text) l) := by
  by_cases h : ∃ l ∈ classified text, l.isInstruction = true
  · have hr := read_of_instruction h
    refine ⟨⟨?_, ?_⟩, ?_⟩
    · intro he
      rw [hr] at he
      cases he
    · intro hn
      obtain ⟨l, hl, hi⟩ := h
      rw [hn l hl] at hi
      cases hi
    · exact ⟨fun _ => ⟨_, hr, grouping_ofLines _⟩, fun _ => h⟩
  · have hn : ∀ l ∈ classified text, l.isInstruction = false := by
      intro l hl
      cases hi : l.isInstruction with
      | false => rfl
      | true => exact absurd ⟨l, hl, hi⟩ h
    have hr := read_of_no_instruction hn
    refine ⟨⟨fun _ => hn, fun _ => hr⟩, ?_⟩
    constructor
    · intro hh
      exact absurd hh h
    · rintro ⟨l, hl, _⟩
      rw [hr] at hl
      cases hl

end Listing

end MacroFusion
