import MacroFusion.Json.Reader
import MacroFusion.Proofs.Text.Encoding

/-!
# Extents: a value is no longer than its text

Every reader takes its value from the head of a text and leaves the rest, which is a suffix.  A string has
at most as many characters as were taken for it, and so has every string that is the value of a field.  A
limit on nesting is met only after as many opening brackets.

The readers of values, elements and members call each other with one less in the budget, so each fact is
proved for all three at once (`Frugal`, `Opening`), by induction on the budget.

* `textLength`, `openings`   the length of a value that is a string, and the opening brackets of a text;
* `units_extent`, `readString?_extent`, `number?_extent`   what the readers of the parts leave;
* `Frugal`, `frugal`   values, elements and members that are read;
* `Opening`, `opening` values, elements and members that are nested too deep;
* `length_field_le`    a string in an object is no longer than the text of the object;
* `lt_openings_of_tooDeep`, `readWithin_brackets`   a text that is nested too deep has more opening
                       brackets than allowed, and as many at its head are enough.
-/

namespace MacroFusion

namespace Json

/-- the length of a string; other values count as empty -/
def textLength : Json → Nat
  | .string s | .cleft s => s.length
  | _ => 0

/-- a value without a text of its own and without fields -/
def Plain (j : Json) : Prop := j.textLength = 0 ∧ j.fields = []

/-! ## Parts -/

theorem skip_suffix (cs : List Char) : skip cs <:+ cs := List.dropWhile_suffix _

/-- what comes after a mark, with or without the blanks around it -/
theorem suffix_of_skip {cs tail : List Char} {c : Char} (h : skip cs = c :: tail) :
    tail <:+ cs ∧ skip tail <:+ cs := by
  have hs := skip_suffix cs
  rw [h] at hs
  have htail := (List.suffix_cons c tail).trans hs
  exact ⟨htail, (skip_suffix tail).trans htail⟩

theorem require_eq_ok {α : Type} {o : Option α} {a : α} (h : require o = .ok a) : o = some a := by
  cases o with
  | none => cases h
  | some b => rw [Except.ok.inj h]

theorem expect?_extent {ws cs rest : List Char} (h : expect? ws cs = some rest) : rest <:+ cs := by
  fun_induction expect? ws cs with
  | case1 cs => exact Option.some.inj h ▸ List.suffix_rfl
  | case2 ws w cs ih => exact (ih h).trans (List.suffix_cons w cs)
  | case3 => cases h
  | case4 => cases h

/-- what the reader of the characters of a string leaves, beside the numbers that it gives -/
def Leaves (cs : List Char) (ns : List Nat) (tail : List Char) : Prop :=
  tail <:+ cs ∧ ns.length + tail.length ≤ cs.length

theorem before_extent {n : Option Nat} {more : Option (List Nat × List Char)} {ns : List Nat}
    {cs rest tail : List Char} (h : before n more = some (ns, tail)) (hrest : rest <:+ cs)
    (hlt : rest.length < cs.length) (hmore : ∀ ms, more = some (ms, tail) → Leaves rest ms tail) :
    Leaves cs ns tail := by
  unfold before at h
  split at h
  · obtain ⟨hns, htail⟩ := Prod.mk.inj (Option.some.inj h)
    subst hns htail
    obtain ⟨hsuffix, hle⟩ := hmore _ rfl
    refine ⟨hsuffix.trans hrest, ?_⟩
    rw [List.length_cons]
    omega
  · cases h

theorem units_extent {cs : List Char} {ns : List Nat} {tail : List Char}
    (h : units cs = some (ns, tail)) : Leaves cs ns tail := by
  fun_induction units cs generalizing ns with
  | case1 => cases h
  | case2 rest =>
    obtain ⟨hns, htail⟩ := Prod.mk.inj (Option.some.inj h)
    subst hns htail
    exact ⟨List.suffix_cons _ _, by simp⟩
  | case3 a b c d rest ih =>
    have hrest : rest <:+ '\\' :: 'u' :: a :: b :: c :: d :: rest :=
      List.suffix_append ['\\', 'u', a, b, c, d] rest
    exact before_extent h hrest (by simp only [List.length_cons]; omega) fun ms hm => ih hm
  | case4 c rest hu ih =>
    have hrest : rest <:+ '\\' :: c :: rest := List.suffix_append ['\\', c] rest
    exact before_extent h hrest (by simp only [List.length_cons]; omega) fun ms hm => ih hm
  | case5 c rest hq hu he ih =>
    exact before_extent h (List.suffix_cons c rest) (Nat.lt_succ_self _) fun ms hm => ih hm

theorem readString?_extent {cs tail : List Char} {s : String} (h : readString? cs = some (s, tail)) :
    tail <:+ cs ∧ s.length + tail.length ≤ cs.length := by
  obtain ⟨⟨ns, tail'⟩, hu, he⟩ := Option.map_eq_some_iff.mp h
  obtain ⟨hs, ht⟩ := Prod.mk.inj he
  subst hs ht
  obtain ⟨hsuffix, hle⟩ := units_extent hu
  have hjoin := Text.length_joinHalves_le ns
  refine ⟨hsuffix, ?_⟩
  rw [String.length_ofList]
  omega

theorem stringValue?_extent {cs tail : List Char} {j : Json} (h : stringValue? cs = some (j, tail)) :
    tail <:+ cs ∧ j.textLength + tail.length ≤ cs.length ∧ j.fields = [] := by
  obtain ⟨⟨ns, tail'⟩, hu, he⟩ := Option.map_eq_some_iff.mp h
  have hs : readString? cs = some (String.ofList (Text.joinHalves ns), tail') := by
    rw [readString?, hu]
    rfl
  obtain ⟨hsuffix, hle⟩ := readString?_extent hs
  dsimp only at he
  obtain ⟨rfl, rfl⟩ := Prod.mk.inj he
  refine ⟨hsuffix, ?_, ?_⟩
  · split
    · exact hle
    · exact hle
  · split
    · rfl
    · rfl

/-- the value of a field comes after its name -/
theorem suffix_of_key {cs after body : List Char} {key : String}
    (hkey : readString? cs = some (key, after)) (hs : skip after = ':' :: body) :
    skip body <:+ '"' :: cs :=
  ((suffix_of_skip hs).2.trans (readString?_extent hkey).1).trans (List.suffix_cons _ _)

theorem wholePart_suffix (cs : List Char) : (wholePart cs).2 <:+ cs := by
  unfold wholePart
  split
  · exact List.drop_suffix 1 cs
  · exact List.dropWhile_suffix _

theorem fraction_suffix (cs : List Char) : (fraction cs).2 <:+ cs := by
  unfold fraction
  split
  · rename_i rest
    have hd : rest.dropWhile Char.isDigit <:+ rest := List.dropWhile_suffix _
    dsimp only
    split
    · exact List.suffix_rfl
    · exact hd.trans (List.suffix_cons _ _)
  · exact List.suffix_rfl

theorem exponent_suffix (cs : List Char) : (exponent cs).2 <:+ cs := by
  unfold exponent
  split
  · rename_i e rest
    split
    · split
      rename_i negative body hsign
      have hbody : body <:+ rest := by
        split at hsign
        · exact (Prod.mk.inj hsign).2 ▸ List.suffix_cons _ _
        · exact (Prod.mk.inj hsign).2 ▸ List.suffix_cons _ _
        · exact (Prod.mk.inj hsign).2 ▸ List.suffix_rfl
      have hd : body.dropWhile Char.isDigit <:+ body := List.dropWhile_suffix _
      dsimp only
      split
      · exact List.suffix_rfl
      · exact (hd.trans hbody).trans (List.suffix_cons e rest)
    · exact List.suffix_rfl
  · exact List.suffix_rfl

theorem number?_extent {limit : Option Nat} {negative : Bool} {cs rest : List Char} {j : Json}
    (h : number? limit negative cs = some (j, rest)) : j.Plain ∧ rest <:+ cs := by
  have hsuffix : (exponent (fraction (wholePart cs).2).2).2 <:+ cs :=
    ((exponent_suffix _).trans (fraction_suffix _)).trans (wholePart_suffix cs)
  unfold number? at h
  dsimp only at h
  split at h
  · cases h
  split at h
  · split at h
    · cases h
    · obtain ⟨hj, hrest⟩ := Prod.mk.inj (Option.some.inj h)
      subst hj hrest
      exact ⟨⟨rfl, rfl⟩, hsuffix⟩
  · obtain ⟨hj, hrest⟩ := Prod.mk.inj (Option.some.inj h)
    subst hj hrest
    exact ⟨⟨rfl, rfl⟩, hsuffix⟩

/-! ## Values -/

/-- what the three readers leave, and the strings that they give, when their budget is `budget` -/
structure Frugal (digits : Option Nat) (budget : Nat) : Prop where
  value_le : ∀ {depth cs j rest}, value digits budget depth cs = .ok (j, rest) →
    rest <:+ cs ∧ j.textLength + rest.length ≤ cs.length
    ∧ ∀ f ∈ j.fields, f.2.textLength ≤ cs.length
  elements_le : ∀ {depth cs js rest}, elements digits budget depth cs = .ok (js, rest) → rest <:+ cs
  members_le : ∀ {depth seen cs fs rest n}, members digits budget depth seen cs = .ok (fs, rest) →
    cs.length ≤ n → (∀ f ∈ seen, f.2.textLength ≤ n) →
    rest <:+ cs ∧ ∀ f ∈ fs, f.2.textLength ≤ n

theorem map_eq_ok {α β : Type} {x : Except Failure α} {f : α → β} {b : β} (h : x.map f = .ok b) :
    ∃ a, x = .ok a ∧ f a = b := by
  cases x with
  | error e => cases h
  | ok a => exact ⟨a, rfl, Except.ok.inj h⟩

theorem word_extent {ws cs rest : List Char} {j k : Json} (hk : k.Plain)
    (h : require ((expect? ws cs).map fun tail => (k, tail)) = .ok (j, rest)) :
    j.Plain ∧ rest <:+ cs := by
  obtain ⟨tail, ht, he⟩ := Option.map_eq_some_iff.mp (require_eq_ok h)
  obtain ⟨hj, hrest⟩ := Prod.mk.inj he
  subst hj hrest
  exact ⟨hk, expect?_extent ht⟩

theorem Plain.value_le {j : Json} {cs body rest : List Char} (h : j.Plain ∧ rest <:+ body)
    (hb : body <:+ cs) :
    rest <:+ cs ∧ j.textLength + rest.length ≤ cs.length
    ∧ ∀ f ∈ j.fields, f.2.textLength ≤ cs.length := by
  obtain ⟨⟨htext, hfields⟩, hsuffix⟩ := h
  rw [htext, hfields, Nat.zero_add]
  exact ⟨hsuffix.trans hb, (hsuffix.trans hb).length_le, List.forall_mem_nil _⟩

namespace Frugal
variable {digits : Option Nat} {budget : Nat}

theorem zero : Frugal digits 0 where
  value_le := by
    intro depth cs j rest h
    cases h
  elements_le := by
    intro depth cs js rest h
    cases h
  members_le := by
    intro depth seen cs fs rest n h
    cases h

theorem value_succ (h : Frugal digits budget) {depth : Nat} {cs rest : List Char} {j : Json}
    (hv : value digits (budget + 1) depth cs = .ok (j, rest)) :
    rest <:+ cs ∧ j.textLength + rest.length ≤ cs.length
    ∧ ∀ f ∈ j.fields, f.2.textLength ≤ cs.length := by
  unfold value at hv
  dsimp only at hv
  split at hv
  · obtain ⟨hsuffix, hle, hfields⟩ := stringValue?_extent (require_eq_ok hv)
    rw [hfields]
    exact ⟨hsuffix.trans (List.suffix_cons _ _), Nat.le_succ_of_le hle, List.forall_mem_nil _⟩
  · rename_i body
    split at hv
    · cases hv
    · rename_i tail hs
      obtain ⟨hj, hrest⟩ := Prod.mk.inj (Except.ok.inj hv)
      subst hj hrest
      exact Plain.value_le ⟨⟨rfl, rfl⟩, (suffix_of_skip hs).1⟩ (List.suffix_cons _ _)
    · obtain ⟨⟨js, tail⟩, hel, he⟩ := map_eq_ok hv
      obtain ⟨hj, hrest⟩ := Prod.mk.inj he
      subst hj hrest
      have hsuffix := (h.elements_le hel).trans (skip_suffix body)
      exact Plain.value_le ⟨⟨rfl, rfl⟩, hsuffix⟩ (List.suffix_cons _ _)
  · rename_i body
    split at hv
    · cases hv
    · rename_i tail hs
      obtain ⟨hj, hrest⟩ := Prod.mk.inj (Except.ok.inj hv)
      subst hj hrest
      exact Plain.value_le ⟨⟨rfl, rfl⟩, (suffix_of_skip hs).1⟩ (List.suffix_cons _ _)
    · obtain ⟨⟨fs, tail⟩, hmem, he⟩ := map_eq_ok hv
      obtain ⟨hj, hrest⟩ := Prod.mk.inj he
      subst hj hrest
      have hskip := (skip_suffix body).length_le
      obtain ⟨hsuffix, hfields⟩ :=
        h.members_le hmem (Nat.le_succ_of_le hskip) (List.forall_mem_nil _)
      have hwhole := (hsuffix.trans (skip_suffix body)).trans (List.suffix_cons '\x7b' body)
      refine ⟨hwhole, ?_, hfields⟩
      show 0 + tail.length ≤ _
      rw [Nat.zero_add]
      exact hwhole.length_le
  · exact Plain.value_le (word_extent ⟨rfl, rfl⟩ hv) (List.suffix_cons _ _)
  · exact Plain.value_le (word_extent ⟨rfl, rfl⟩ hv) (List.suffix_cons _ _)
  · exact Plain.value_le (word_extent ⟨rfl, rfl⟩ hv) (List.suffix_cons _ _)
  · exact Plain.value_le (word_extent ⟨rfl, rfl⟩ hv) (List.suffix_cons _ _)
  · exact Plain.value_le (word_extent ⟨rfl, rfl⟩ hv) (List.suffix_cons _ _)
  · exact Plain.value_le (word_extent ⟨rfl, rfl⟩ hv) (List.suffix_append ['-', 'I'] _)
  · exact Plain.value_le (number?_extent (require_eq_ok hv)) (List.suffix_cons _ _)
  · exact Plain.value_le (number?_extent (require_eq_ok hv)) List.suffix_rfl

theorem elements_succ (h : Frugal digits budget) {depth : Nat} {cs rest : List Char} {js : List Json}
    (hel : elements digits (budget + 1) depth cs = .ok (js, rest)) : rest <:+ cs := by
  rw [elements] at hel
  split at hel
  · cases hel
  rename_i j after hv
  have hvalue := (h.value_le hv).1
  split at hel
  · rename_i more hs
    obtain ⟨⟨ks, tail⟩, hmore, he⟩ := map_eq_ok hel
    obtain ⟨hj, hrest⟩ := Prod.mk.inj he
    subst hj hrest
    exact ((h.elements_le hmore).trans (suffix_of_skip hs).2).trans hvalue
  · rename_i tail hs
    obtain ⟨hj, hrest⟩ := Prod.mk.inj (Except.ok.inj hel)
    subst hj hrest
    exact (suffix_of_skip hs).1.trans hvalue
  · cases hel

theorem members_succ (h : Frugal digits budget) {depth n : Nat} {seen fs : List (String × Json)}
    {cs rest : List Char} (hm : members digits (budget + 1) depth seen cs = .ok (fs, rest))
    (hn : cs.length ≤ n) (hseen : ∀ f ∈ seen, f.2.textLength ≤ n) :
    rest <:+ cs ∧ ∀ f ∈ fs, f.2.textLength ≤ n := by
  unfold members at hm
  split at hm
  · rename_i budget' body hb
    obtain rfl : budget' = budget := (Nat.succ.inj hb).symm
    split at hm
    · cases hm
    rename_i key afterKey hkey
    split at hm
    · rename_i afterColon hs
      have hcolon := suffix_of_key hkey hs
      split at hm
      · cases hm
      rename_i j afterValue hv
      obtain ⟨hvalue, htext, -⟩ := h.value_le hv
      have hafter := hvalue.trans hcolon
      -- the new field is bounded by what was read for it, the others as before
      have hput : ∀ f ∈ Dictionary.put key j seen, f.2.textLength ≤ n := by
        intro f hf
        rcases Dictionary.mem_put hf with rfl | hf
        · have hle := hcolon.length_le
          show j.textLength ≤ n
          omega
        · exact hseen f hf
      dsimp only at hm
      split at hm
      · rename_i more hs
        have hmore := (suffix_of_skip hs).2.trans hafter
        obtain ⟨hsuffix, hall⟩ := h.members_le hm (Nat.le_trans hmore.length_le hn) hput
        exact ⟨hsuffix.trans hmore, hall⟩
      · rename_i tail hs
        obtain ⟨hfs, hrest⟩ := Prod.mk.inj (Except.ok.inj hm)
        subst hfs hrest
        exact ⟨(suffix_of_skip hs).1.trans hafter, hput⟩
      · cases hm
    · cases hm
  · cases hm

end Frugal

/-- **No reader leaves anything but a suffix, and no string is longer than its text.** -/
theorem frugal (digits : Option Nat) (budget : Nat) : Frugal digits budget := by
  induction budget with
  | zero => exact .zero
  | succ budget ih => exact ⟨ih.value_succ, ih.elements_succ, ih.members_succ⟩

/-- the strings in the fields of an object that was read from a text -/
theorem length_field_le {limits : Limits} {cs : List Char} {fields : List (String × Json)}
    {key s : String} (h : readWithin limits cs = .ok (.object fields))
    (hs : fields.lookup key = some (.string s)) : s.length ≤ cs.length := by
  unfold readWithin at h
  split at h
  · rename_i j rest hv
    split at h
    · obtain rfl : j = .object fields := Except.ok.inj h
      have hle := ((frugal _ _).value_le hv).2.2 _ (Dictionary.mem_of_lookup hs)
      exact Nat.le_trans hle (skip_suffix cs).length_le
    · cases h
  · cases h

/-- no string of an object is taken to be whole if that is not known -/
theorem lookup_cleave_ne_string {j : Json} {fields : List (String × Json)}
    (h : j.cleave = .object fields) (key s : String) : fields.lookup key ≠ some (.string s) := by
  intro hl
  have hmem := Dictionary.mem_of_lookup hl
  cases j with
  | object entries =>
    rw [← Json.object.inj h] at hmem
    obtain ⟨⟨k, v⟩, -, he⟩ := List.mem_map.mp hmem
    have hv := (Prod.mk.inj he).2
    cases v <;> cases hv
  | _ => cases h

/-! ## Nesting -/

/-- how many brackets and braces are opened in a text, be it in strings -/
def openings (cs : List Char) : Nat := cs.countP fun c => c == '[' || c == '\x7b'

theorem openings_le {cs rest : List Char} (h : rest <:+ cs) : openings rest ≤ openings cs :=
  h.sublist.countP_le

theorem openings_bracket (cs : List Char) : openings ('[' :: cs) = openings cs + 1 :=
  List.countP_cons_of_pos rfl

theorem openings_brace (cs : List Char) : openings ('\x7b' :: cs) = openings cs + 1 :=
  List.countP_cons_of_pos rfl

theorem require_ne_tooDeep {α : Type} (o : Option α) : require o ≠ .error .tooDeep := by
  intro h
  cases o with
  | none => cases h
  | some a => cases h

theorem of_map_eq_error {α β : Type} {x : Except Failure α} {f : α → β} {e : Failure}
    (h : x.map f = .error e) : x = .error e := by
  cases x with
  | error e' => exact congrArg _ (Except.error.inj h)
  | ok a => cases h

/-- the three readers meet the limit `depth` only after as many opening brackets, when their budget is
`budget` -/
structure Opening (digits : Option Nat) (budget : Nat) : Prop where
  value_lt : ∀ {depth cs}, value digits budget depth cs = .error .tooDeep → depth < openings cs
  elements_lt : ∀ {depth cs}, elements digits budget depth cs = .error .tooDeep → depth < openings cs
  members_lt : ∀ {depth seen cs}, members digits budget depth seen cs = .error .tooDeep → depth < openings cs

namespace Opening
variable {digits : Option Nat} {budget : Nat}

theorem zero : Opening digits 0 where
  value_lt := by
    intro depth cs h
    cases h
  elements_lt := by
    intro depth cs h
    cases h
  members_lt := by
    intro depth seen cs h
    cases h

theorem value_succ (h : Opening digits budget) {depth : Nat} {cs : List Char}
    (hv : value digits (budget + 1) depth cs = .error .tooDeep) : depth < openings cs := by
  unfold value at hv
  dsimp only at hv
  split at hv
  · exact absurd hv (require_ne_tooDeep _)
  · rename_i body
    have hskip := openings_le (skip_suffix body)
    rw [openings_bracket]
    split at hv
    · exact Nat.succ_pos _
    · cases hv
    · have hlt := h.elements_lt (of_map_eq_error hv)
      omega
  · rename_i body
    have hskip := openings_le (skip_suffix body)
    rw [openings_brace]
    split at hv
    · exact Nat.succ_pos _
    · cases hv
    · have hlt := h.members_lt (of_map_eq_error hv)
      omega
  all_goals exact absurd hv (require_ne_tooDeep _)

theorem elements_succ (h : Opening digits budget) {depth : Nat} {cs : List Char}
    (hel : elements digits (budget + 1) depth cs = .error .tooDeep) : depth < openings cs := by
  rw [elements] at hel
  split at hel
  · rename_i f hv
    exact h.value_lt (hv.trans (congrArg _ (Except.error.inj hel)))
  rename_i j after hv
  have hvalue := ((frugal digits budget).value_le hv).1
  split at hel
  · rename_i more hs
    have hmore := (suffix_of_skip hs).2.trans hvalue
    exact Nat.lt_of_lt_of_le (h.elements_lt (of_map_eq_error hel)) (openings_le hmore)
  · cases hel
  · cases hel

theorem members_succ (h : Opening digits budget) {depth : Nat} {seen : List (String × Json)} {cs : List Char}
    (hm : members digits (budget + 1) depth seen cs = .error .tooDeep) : depth < openings cs := by
  unfold members at hm
  split at hm
  · rename_i budget' body hb
    obtain rfl : budget' = budget := (Nat.succ.inj hb).symm
    split at hm
    · cases hm
    rename_i key afterKey hkey
    split at hm
    · rename_i afterColon hs
      have hcolon := suffix_of_key hkey hs
      split at hm
      · rename_i f hv
        have hlt := h.value_lt (hv.trans (congrArg _ (Except.error.inj hm)))
        exact Nat.lt_of_lt_of_le hlt (openings_le hcolon)
      rename_i j afterValue hv
      have hafter := ((frugal digits budget').value_le hv).1.trans hcolon
      dsimp only at hm
      split at hm
      · rename_i more hs
        have hmore := (suffix_of_skip hs).2.trans hafter
        exact Nat.lt_of_lt_of_le (h.members_lt hm) (openings_le hmore)
      · cases hm
      · cases hm
    · cases hm
  · cases hm

end Opening

theorem opening (digits : Option Nat) (budget : Nat) : Opening digits budget := by
  induction budget with
  | zero => exact .zero
  | succ budget ih => exact ⟨ih.value_succ, ih.elements_succ, ih.members_succ⟩

/-- **A text that is nested too deep has more opening brackets than the nesting allowed.** -/
theorem lt_openings_of_tooDeep {limits : Limits} {cs : List Char}
    (h : readWithin limits cs = .error .tooDeep) : limits.depth < openings cs := by
  unfold readWithin at h
  split at h
  · split at h
    · cases h
    · cases h
  · rename_i f hv
    have hlt := (opening _ _).value_lt (hv.trans (congrArg _ (Except.error.inj h)))
    exact Nat.lt_of_lt_of_le hlt (openings_le (skip_suffix cs))

/-- brackets that are opened one after the other meet the limit, whatever follows -/
theorem value_brackets {digits : Option Nat} {budget depth : Nat} (h : 2 * depth < budget)
    (rest : List Char) :
    value digits budget depth (List.replicate (depth + 1) '[' ++ rest) = .error .tooDeep := by
  induction depth generalizing budget with
  | zero =>
    obtain ⟨budget, rfl⟩ : ∃ b, budget = b + 1 := ⟨budget - 1, by omega⟩
    unfold value
    rfl
  | succ depth ih =>
    obtain ⟨budget, rfl⟩ : ∃ b, budget = b + 2 := ⟨budget - 2, by omega⟩
    have hv := ih (show 2 * depth < budget by omega)
    unfold value
    show (elements digits (budget + 1) depth (List.replicate (depth + 1) '[' ++ rest)).map _ = _
    rw [elements, hv]
    rfl

theorem readWithin_brackets (limits : Limits) (rest : List Char) :
    readWithin limits (List.replicate (limits.depth + 1) '[' ++ rest) = .error .tooDeep := by
  unfold readWithin
  have hs : skip (List.replicate (limits.depth + 1) '[' ++ rest)
      = List.replicate (limits.depth + 1) '[' ++ rest := rfl
  rw [hs, value_brackets (by rw [List.length_append, List.length_replicate]; omega)]

end Json

end MacroFusion
