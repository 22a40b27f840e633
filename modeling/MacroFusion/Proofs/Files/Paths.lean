import MacroFusion.Proofs.Files.Walk

/-!
# Paths: names with slashes between them

The path of what is below a directory is made of the path of the directory and of the names that lead there.
It can be taken apart again, so different names make different paths, and it leads where the names
lead.

* `toList_below`     how such a path is made;
* `splitAt_slashed`  its names are the pieces between the slashes, hence `below_inj`;
* `below_lt_below_iff`   two such paths are compared by what follows the directory;
* `follow_append`    the end of a way can be put in the place of another one;
* `find?_below`      so the path leads to what the names lead to, if it is not too long.
-/

namespace MacroFusion

/-! ## Cutting at slashes -/

namespace Text

theorem splitAt_append (sep : Char) (x y : List Char) :
    splitAt sep (x ++ sep :: y) = splitAt sep x ++ splitAt sep y := by
  induction x with
  | nil => simp [splitAt]
  | cons c x ih =>
    rw [List.cons_append, splitAt, splitAt, ih]
    by_cases hc : c = sep
    · rw [if_pos hc, if_pos hc, List.cons_append]
    · rw [if_neg hc, if_neg hc]
      obtain ⟨piece, rest, hx⟩ := List.exists_cons_of_ne_nil (splitAt_ne_nil sep x)
      rw [hx]
      rfl

theorem splitAt_of_not_mem {sep : Char} {x : List Char} (h : sep ∉ x) : splitAt sep x = [x] := by
  induction x with
  | nil => rfl
  | cons c x ih =>
    have hc : c ≠ sep := fun e => h (e ▸ List.mem_cons_self)
    rw [splitAt, if_neg hc, ih fun hm => h (List.mem_cons_of_mem c hm)]

end Text

/-- names that can be the steps of a path, and at least one of them -/
def Path.IsWay (names : List String) : Prop := names ≠ [] ∧ ∀ name ∈ names, Path.IsName name

/-- a name that is looked up as it is: it does not stand for a directory, and can be looked up at all -/
structure Path.IsUsual (name : String) : Prop where
  not_idle : Path.isIdle name = false
  not_up : name ≠ ".."
  no_nul : '\x00' ∉ name.toList
  not_long : Path.isTooLongName name = false

namespace FileSystem

/-! ## Paths -/

/-- what stands before a name that is put below a directory -/
def stem (path : String) : String :=
  if path.isEmpty || Text.endsIn path "/" then path else path ++ "/"

theorem join_eq (path name : String) : join path name = stem path ++ name := by
  unfold join stem
  split <;> rfl

/-- names with slashes between them -/
def slashed : List String → List Char
  | [] => []
  | [name] => name.toList
  | name :: other :: names => name.toList ++ '/' :: slashed (other :: names)

theorem slashed_singleton (name : String) : slashed [name] = name.toList := rfl

theorem slashed_cons_cons (name other : String) (names : List String) :
    slashed (name :: other :: names) = name.toList ++ '/' :: slashed (other :: names) := rfl

/-- the way that two of them have in common does not count -/
theorem slashed_append_lt_iff (above : List String) {x y : List String} (hx : x ≠ []) (hy : y ≠ []) :
    slashed (above ++ x) < slashed (above ++ y) ↔ slashed x < slashed y := by
  induction above with
  | nil => exact Iff.rfl
  | cons name above ih =>
    obtain ⟨c, cs, hc⟩ := List.exists_cons_of_ne_nil (List.append_ne_nil_of_right_ne_nil above hx)
    obtain ⟨d, ds, hd⟩ := List.exists_cons_of_ne_nil (List.append_ne_nil_of_right_ne_nil above hy)
    rw [List.cons_append, List.cons_append, ← ih, hc, hd, slashed_cons_cons, slashed_cons_cons,
      List.append_cons _ _ (slashed (c :: cs)), List.append_cons _ _ (slashed (d :: ds)),
      Text.append_lt_append_iff]

/-- a path that ends in a name gets a slash before the next one -/
theorem stem_join {name : String} (h : Path.IsName name) (path : String) :
    stem (join path name) = join path name ++ "/" := by
  have hne : name.toList ≠ [] := fun e => h.1 (String.toList_eq_nil_iff.mp e)
  have hlist : (join path name).toList = (stem path).toList ++ name.toList := by
    rw [join_eq, String.toList_append]
  have hempty : (join path name).isEmpty = false := by
    rw [← Bool.not_eq_true, String.isEmpty_iff, ← String.toList_eq_nil_iff, hlist]
    exact fun e => hne (List.append_eq_nil_iff.mp e).2
  have hends : Text.endsIn (join path name) "/" = false := by
    rw [← Bool.not_eq_true, Text.endsIn, List.isSuffixOf_iff_suffix, hlist]
    intro hs
    have hname : ['/'] <:+ name.toList :=
      List.suffix_of_suffix_length_le hs (List.suffix_append _ _) (List.length_pos_of_ne_nil hne)
    exact h.2 (hname.subset (List.mem_singleton_self _))
  rw [stem, hempty, hends]
  rfl

theorem toList_below {names : List String} (h : Path.IsWay names) (path : String) :
    (below path names).toList = (stem path).toList ++ slashed names := by
  obtain ⟨hne, h⟩ := h
  induction names generalizing path with
  | nil => exact absurd rfl hne
  | cons name names ih =>
    obtain ⟨hname, hnames⟩ := List.forall_mem_cons.mp h
    cases names with
    | nil =>
      show (join path name).toList = _
      rw [join_eq, String.toList_append, slashed_singleton]
    | cons other names =>
      rw [below_cons, ih _ (List.cons_ne_nil _ _) hnames, stem_join hname, join_eq, String.toList_append,
        String.toList_append, List.append_assoc, List.append_assoc, slashed_cons_cons]
      rfl

theorem not_mem_slashed {c : Char} (hc : c ≠ '/') {names : List String}
    (h : ∀ name ∈ names, c ∉ name.toList) : c ∉ slashed names := by
  induction names with
  | nil => exact List.not_mem_nil
  | cons name names ih =>
    obtain ⟨hname, hnames⟩ := List.forall_mem_cons.mp h
    cases names with
    | nil => exact hname
    | cons other names =>
      rw [slashed_cons_cons, List.mem_append, List.mem_cons]
      exact not_or.mpr ⟨hname, not_or.mpr ⟨hc, ih hnames⟩⟩

/-- such a path begins with the path of the directory, and what follows has only characters of the names,
besides slashes -/
theorem exists_toList_below {c : Char} (hc : c ≠ '/') {names : List String} (h : Path.IsWay names)
    (path : String) (hnames : ∀ name ∈ names, c ∉ name.toList) :
    ∃ tail, (below path names).toList = path.toList ++ tail ∧ c ∉ tail := by
  have hs := not_mem_slashed hc hnames
  rw [toList_below h, stem]
  split
  · exact ⟨_, rfl, hs⟩
  · refine ⟨'/' :: slashed names, ?_, List.not_mem_cons_of_ne_of_not_mem hc hs⟩
    rw [String.toList_append, List.append_assoc]
    rfl

theorem splitAt_slashed {names : List String} (h : Path.IsWay names) :
    Text.splitAt '/' (slashed names) = names.map String.toList := by
  obtain ⟨hne, h⟩ := h
  induction names with
  | nil => exact absurd rfl hne
  | cons name names ih =>
    obtain ⟨hname, hnames⟩ := List.forall_mem_cons.mp h
    cases names with
    | nil => exact Text.splitAt_of_not_mem hname.2
    | cons other names =>
      rw [slashed_cons_cons, Text.splitAt_append, Text.splitAt_of_not_mem hname.2,
        ih (List.cons_ne_nil _ _) hnames]
      rfl

theorem slashed_inj {x y : List String} (hx : Path.IsWay x) (hy : Path.IsWay y)
    (h : slashed x = slashed y) : x = y := by
  have hsplit := congrArg (Text.splitAt '/') h
  rw [splitAt_slashed hx, splitAt_slashed hy] at hsplit
  exact List.map_injective_iff.mpr (fun _ _ => String.toList_inj.mp) hsplit

theorem below_inj {x y : List String} (hx : Path.IsWay x) (hy : Path.IsWay y) {path : String}
    (h : below path x = below path y) : x = y := by
  have hlist := congrArg String.toList h
  rw [toList_below hx, toList_below hy] at hlist
  exact slashed_inj hx hy (List.append_cancel_left hlist)

theorem below_lt_below_iff {x y : List String} (hx : Path.IsWay x) (hy : Path.IsWay y) (path : String) :
    below path x < below path y ↔ slashed x < slashed y := by
  rw [String.lt_iff, toList_below hx, toList_below hy, Text.append_lt_append_iff]

/-! ## Following a path -/

/-- the steps of the path of a directory come first, and after them the names; slashes at the end of the
path of the directory make no step -/
theorem steps_below {names : List String} (h : Path.IsWay names) {path : String} (hne : path ≠ "") :
    ∃ before idle, Path.steps path = before ++ idle ∧ (idle = [] ∨ idle = [""])
      ∧ Path.steps (below path names) = before ++ names := by
  have hnames : (names.map String.toList).map String.ofList = names := by
    rw [List.map_map]
    exact List.map_id'' (fun _ => String.ofList_toList) names
  unfold Path.steps
  rw [toList_below h, stem]
  by_cases hends : Text.endsIn path "/" = true
  · obtain ⟨before, hbefore⟩ := List.isSuffixOf_iff_suffix.mp hends
    have hpath : path.toList = before ++ '/' :: [] := hbefore.symm
    refine ⟨(Text.splitAt '/' before).map String.ofList, [""], ?_, .inr rfl, ?_⟩
    · rw [hpath, Text.splitAt_append, List.map_append]
      rfl
    · rw [hends, Bool.or_true, if_pos rfl, hpath, List.append_assoc, List.singleton_append,
        Text.splitAt_append, splitAt_slashed h, List.map_append, hnames]
  · have hstem : ¬ (path.isEmpty || Text.endsIn path "/") = true := by
      simp [hends, hne]
    refine ⟨(Text.splitAt '/' path.toList).map String.ofList, [], (List.append_nil _).symm, .inl rfl,
      ?_⟩
    rw [if_neg hstem, String.toList_append, List.append_assoc]
    show (Text.splitAt '/' (path.toList ++ '/' :: slashed names)).map String.ofList = _
    rw [Text.splitAt_append, splitAt_slashed h, List.map_append, hnames]

section
variable {fs : FileSystem} {there there' ending ending' : List String}

/-- one step: a link puts its own steps before those that are left -/
theorem followVia_append {jump : List String → List String → Lead}
    (hj : ∀ here steps, jump here (steps ++ ending) = .to there →
      jump here (steps ++ ending') = .to there')
    (hend : ∀ here, fs.followVia jump here ending = .to there →
      fs.followVia jump here ending' = .to there')
    {here : List String} (first : List String)
    (h : fs.followVia jump here (first ++ ending) = .to there) :
    fs.followVia jump here (first ++ ending') = .to there' := by
  induction first generalizing here with
  | nil => exact hend here h
  | cons step first ih =>
    by_cases hd : fs.IsDirectory here
    · rw [List.cons_append, followVia_of_directory hd] at h ⊢
      by_cases hidle : Path.isIdle step = true
      · rw [if_pos hidle] at h ⊢
        exact ih h
      · rw [if_neg hidle] at h ⊢
        by_cases hup : step = ".."
        · rw [if_pos hup] at h ⊢
          exact ih h
        · rw [if_neg hup] at h ⊢
          by_cases hlong : Path.isTooLongName step = true
          · rw [if_pos hlong] at h
            cases h
          · rw [if_neg hlong] at h ⊢
            cases hl : fs.link? (here ++ [step]) with
            | none =>
              rw [hl] at h
              exact ih h
            | some target =>
              rw [hl] at h
              have hjump := hj (if Path.isAbsolute target then [] else here) (Path.steps target ++ first)
              rw [List.append_assoc, List.append_assoc] at hjump
              exact hjump h
    · rw [List.cons_append, followVia_of_not_directory hd] at h
      cases h

/-- a way can end in another one, if that leads somewhere from wherever the end led to its place -/
theorem follow_append (hend : ∀ jump here, fs.followVia jump here ending = .to there →
      fs.followVia jump here ending' = .to there') {links : Nat} {here : List String}
    (first : List String) (h : fs.follow links here (first ++ ending) = .to there) :
    fs.follow links here (first ++ ending') = .to there' := by
  induction links generalizing here first with
  | zero =>
    refine followVia_append (fun here steps hnowhere => ?_) (hend _) first h
    cases hnowhere
  | succ links ih => exact followVia_append (fun here steps => ih steps) (hend _) first h

end

/-- an empty step stays where it is -/
theorem followVia_idle {fs : FileSystem} {jump : List String → List String → Lead}
    {here there : List String} (h : fs.followVia jump here [""] = .to there) : here = there := by
  by_cases hd : fs.IsDirectory here
  · rw [followVia_of_directory hd] at h
    exact Lead.to.inj h
  · rw [followVia_of_not_directory hd] at h
    cases h

/-- names that lead down from a node are followed, unless the last is that of a link -/
theorem followVia_names {fs : FileSystem} (jump : List String → List String → Lead)
    {here names : List String} {node found : Node} (hnode : fs.root.at? here = some node)
    (hfound : node.at? names = some found) (hlink : ∀ target, found ≠ .link target)
    (h : ∀ name ∈ names, Path.IsUsual name) : fs.followVia jump here names = .to (here ++ names) := by
  induction names generalizing here node with
  | nil => rw [followVia, List.append_nil]
  | cons name names ih =>
    obtain ⟨⟨hidle, hup, -, hshort⟩, hnames⟩ := List.forall_mem_cons.mp h
    cases node with
    | directory entries =>
      rw [Node.at?_directory_cons] at hfound
      obtain ⟨child, hl, hc⟩ := Option.bind_eq_some_iff.mp hfound
      have hchild : fs.root.at? (here ++ [name]) = some child := by
        rw [Node.at?_append, hnode, Option.bind_some, Node.at?_directory_cons, hl]
        exact Node.at?_nil child
      have hnone : fs.link? (here ++ [name]) = none := by
        unfold link?
        rw [hchild]
        cases child with
        | link target =>
          cases names with
          | nil => exact absurd (Option.some.inj hc).symm (hlink target)
          | cons next names => cases hc
        | _ => rfl
      rw [followVia_of_directory ⟨entries, hnode⟩, hidle, if_neg Bool.false_ne_true, if_neg hup, hshort,
        if_neg Bool.false_ne_true, hnone, Option.elim_none, ih hchild hc hnames, List.append_assoc]
      rfl
    | _ => cases hfound

theorem lead_eq_to_iff {fs : FileSystem} {path : String} {names : List String} :
    fs.lead path = .to names ↔ '\x00' ∉ path.toList ∧ Path.isTooLong path = false
      ∧ fs.follow fs.greatestLinks (if Path.isAbsolute path then [] else fs.workingDirectory)
        (Path.steps path) = .to names := by
  unfold lead
  by_cases hnul : '\x00' ∈ path.toList
  · simp [hnul]
  · by_cases hlong : Path.isTooLong path = true
    · simp [hnul, hlong]
    · simp [hnul, hlong]

theorem find?_eq_some_iff {fs : FileSystem} {path : String} {node : Node} :
    fs.find? path = some node
      ↔ path ≠ "" ∧ ∃ names, fs.lead path = .to names ∧ fs.root.at? names = some node := by
  unfold find? look
  by_cases hempty : path = ""
  · simp [hempty]
  · rcases fs.lead path with names | _ | _
    · cases hat : fs.root.at? names <;> simp [hempty, hat]
    · simp [hempty]
    · simp [hempty]

/-- **A path leads where its names lead**, if they do not lead to a link. -/
theorem find?_below {fs : FileSystem} {path : String} {node found : Node} {names : List String}
    (h : fs.find? path = some node) (hway : Path.IsWay names) (hfound : node.at? names = some found)
    (hlink : ∀ target, found ≠ .link target) (husual : ∀ name ∈ names, Path.IsUsual name)
    (hshort : Path.isTooLong (below path names) = false) : fs.find? (below path names) = some found := by
  obtain ⟨hne, there, hlead, hnode⟩ := find?_eq_some_iff.mp h
  obtain ⟨hnul, -, hfollow⟩ := lead_eq_to_iff.mp hlead
  obtain ⟨tail, htail, hclean⟩ := exists_toList_below (c := '\x00') (by decide) hway path
    fun name hn => (husual name hn).no_nul
  have habsolute : Path.isAbsolute (below path names) = Path.isAbsolute path := by
    unfold Path.isAbsolute
    rw [htail, List.head?_append_of_ne_nil _ (mt String.toList_eq_nil_iff.mp hne)]
  obtain ⟨before, idle, hpath, hidle, hbelow⟩ := steps_below hway hne
  have hend : ∀ jump here, fs.followVia jump here idle = .to there →
      fs.followVia jump here names = .to (there ++ names) := by
    intro jump here hstay
    have hhere : here = there := by
      rcases hidle with rfl | rfl
      · exact Lead.to.inj hstay
      · exact followVia_idle hstay
    rw [hhere]
    exact followVia_names jump hnode hfound hlink husual
  have hbelowLead : fs.lead (below path names) = .to (there ++ names) := by
    refine lead_eq_to_iff.mpr ⟨?_, hshort, ?_⟩
    · rw [htail, List.mem_append]
      exact not_or.mpr ⟨hnul, hclean⟩
    · rw [habsolute, hbelow]
      rw [hpath] at hfollow
      exact follow_append hend before hfollow
  refine find?_eq_some_iff.mpr ⟨?_, there ++ names, hbelowLead, ?_⟩
  · rw [Ne, ← String.toList_eq_nil_iff, htail, List.append_eq_nil_iff, String.toList_eq_nil_iff]
    exact fun e => hne e.1
  · rw [Node.at?_append, hnode]
    exact hfound

end FileSystem

end MacroFusion
