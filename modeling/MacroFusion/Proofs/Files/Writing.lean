import MacroFusion.Files.Tree

/-!
# Writing: one file changes and nothing else

A file is written where its path leads, along links if there are any.  The way there is made of
directories, so the new node is put into a directory that exists, and no other file, no directory and no link
comes or goes.

* `Node.at?_append`          a way is gone in two parts;
* `Node.at?_put_self`, `Node.stamp_put_of_ne`   the place that is written, and every other place;
* `FileSystem.follow_place`  where a path leads: into a directory, or to one, and never to a link;
* `FileSystem.follow_congr`  which way a path leads is a matter of the directories and links alone;
* `FileSystem.exists_wrote`  so a file that can be written is, and nothing else has changed.
-/

namespace MacroFusion

theorem Path.steps_ne_nil (path : String) : Path.steps path ≠ [] := by
  intro he
  exact Text.splitAt_ne_nil '/' path.toList (List.map_eq_nil_iff.mp he)

namespace Node

/-- a node without what is below it -/
def stamp : Node → Node
  | .directory _ => .directory []
  | node => node

theorem at?_nil (node : Node) : node.at? [] = some node := by
  cases node <;> rfl

theorem at?_directory_cons (entries : List (String × Node)) (name : String) (names : List String) :
    (directory entries).at? (name :: names) = (entries.lookup name).bind (·.at? names) := by
  rw [at?]
  cases entries.lookup name <;> rfl

theorem put_nil (node new : Node) : node.put [] new = new := by
  cases node <;> rfl

theorem put_directory_cons (entries : List (String × Node)) (name : String) (names : List String)
    (new : Node) :
    (directory entries).put (name :: names) new
      = directory (Dictionary.put name (((entries.lookup name).getD (directory [])).put names new)
        entries) := rfl

theorem at?_append (node : Node) (names more : List String) :
    node.at? (names ++ more) = (node.at? names).bind (·.at? more) := by
  induction names generalizing node with
  | nil =>
    rw [at?_nil]
    rfl
  | cons name names ih =>
    cases node with
    | directory entries =>
      rw [List.cons_append, at?_directory_cons, at?_directory_cons]
      cases entries.lookup name with
      | none => rfl
      | some child => exact ih child
    | _ => rfl

/-- what is above a node is a directory -/
theorem exists_directory_of_at? {node child : Node} {parent : List String} {name : String}
    (h : node.at? (parent ++ [name]) = some child) :
    ∃ entries, node.at? parent = some (directory entries) := by
  rw [at?_append] at h
  obtain ⟨above, ha, hc⟩ := Option.bind_eq_some_iff.mp h
  cases above with
  | directory entries => exact ⟨entries, ha⟩
  | _ => cases hc

section
variable {node : Node} {parent : List String} {name : String} {entries : List (String × Node)}

/-- the way down from a directory to another one -/
theorem exists_child {first : String}
    (h : node.at? (first :: parent) = some (directory entries)) :
    ∃ others child, node = directory others ∧ others.lookup first = some child
      ∧ child.at? parent = some (directory entries) := by
  cases node with
  | directory others =>
    rw [at?_directory_cons] at h
    obtain ⟨child, hl, hc⟩ := Option.bind_eq_some_iff.mp h
    exact ⟨others, child, rfl, hl, hc⟩
  | _ => cases h

theorem at?_put_self (h : node.at? parent = some (directory entries)) (new : Node) :
    (node.put (parent ++ [name]) new).at? (parent ++ [name]) = some new := by
  induction parent generalizing node with
  | nil =>
    rw [at?_nil] at h
    cases h
    rw [List.nil_append, put_directory_cons, at?_directory_cons, Dictionary.lookup_put_self,
      put_nil, Option.bind_some, at?_nil]
  | cons first parent ih =>
    obtain ⟨others, child, rfl, hl, hc⟩ := exists_child h
    rw [List.cons_append, put_directory_cons, at?_directory_cons, Dictionary.lookup_put_self, hl]
    exact ih hc

/-- **Every other place is as it was**: a file that is put in place of a file, or where nothing was. -/
theorem stamp_put_of_ne (h : node.at? parent = some (directory entries))
    (hold : ∀ es, node.at? (parent ++ [name]) ≠ some (directory es)) (f : File)
    {names : List String} (hne : names ≠ parent ++ [name]) :
    ((node.put (parent ++ [name]) (file f)).at? names).map stamp = (node.at? names).map stamp := by
  induction parent generalizing node names with
  | nil =>
    rw [at?_nil] at h
    cases h
    cases names with
    | nil => rfl
    | cons first names =>
      rw [List.nil_append, put_directory_cons, at?_directory_cons, at?_directory_cons]
      by_cases hn : first = name
      · subst hn
        rw [Dictionary.lookup_put_self, put_nil]
        cases names with
        | nil => exact absurd rfl hne
        | cons below names =>
          -- nothing is below a file, neither below the new one nor below what was there
          cases hl : entries.lookup first with
          | none => rfl
          | some old =>
            cases old with
            | directory es =>
              have hdir : (directory entries).at? ([] ++ [first]) = some (directory es) := by
                rw [List.nil_append, at?_directory_cons, hl]
                rfl
              exact absurd hdir (hold es)
            | _ => rfl
      · rw [Dictionary.lookup_put_of_ne hn]
  | cons first parent ih =>
    obtain ⟨others, child, rfl, hl, hc⟩ := exists_child h
    cases names with
    | nil => rfl
    | cons n names =>
      rw [List.cons_append, put_directory_cons, at?_directory_cons, at?_directory_cons]
      by_cases hn : n = first
      · subst hn
        rw [Dictionary.lookup_put_self, hl]
        apply ih hc
        · intro es he
          apply hold es
          rw [List.cons_append, at?_directory_cons, hl]
          exact he
        · intro he
          exact hne (by rw [he]; rfl)
      · rw [Dictionary.lookup_put_of_ne hn]

end

end Node

namespace FileSystem

/-- whether there is a directory at some names -/
def IsDirectory (fs : FileSystem) (names : List String) : Prop :=
  ∃ entries, fs.root.at? names = some (.directory entries)

theorem isDirectory_iff {fs : FileSystem} {names : List String} :
    fs.IsDirectory names ↔ (fs.root.at? names).map Node.stamp = some (.directory []) := by
  unfold IsDirectory
  cases fs.root.at? names with
  | none => simp
  | some node => cases node <;> simp [Node.stamp]

theorem link?_eq_some_iff {fs : FileSystem} {names : List String} {target : String} :
    fs.link? names = some target ↔ (fs.root.at? names).map Node.stamp = some (.link target) := by
  unfold link?
  cases fs.root.at? names with
  | none => simp
  | some node => cases node <;> simp [Node.stamp]

theorem isDirectory_dropLast {fs : FileSystem} {names : List String} (h : fs.IsDirectory names) :
    fs.IsDirectory names.dropLast := by
  obtain ⟨entries, he⟩ := h
  cases hn : names.reverse with
  | nil =>
    have hnil : names = [] := List.reverse_eq_nil_iff.mp hn
    rw [hnil] at he ⊢
    exact ⟨entries, he⟩
  | cons last rest =>
    have hsplit : names = rest.reverse ++ [last] := by
      rw [← List.reverse_reverse names, hn, List.reverse_cons]
    rw [hsplit] at he
    rw [hsplit, List.dropLast_concat]
    exact Node.exists_directory_of_at? he

/-! ## Ways -/

section
variable {fs : FileSystem} {jump : List String → List String → Lead} {here : List String}

theorem followVia_of_directory (h : fs.IsDirectory here) (step : String) (rest : List String) :
    fs.followVia jump here (step :: rest) =
      if Path.isIdle step then fs.followVia jump here rest
      else if step = ".." then fs.followVia jump here.dropLast rest
      else if Path.isTooLongName step then .tooLong
      else (fs.link? (here ++ [step])).elim (fs.followVia jump (here ++ [step]) rest) fun target =>
        jump (if Path.isAbsolute target then [] else here) (Path.steps target ++ rest) := by
  obtain ⟨entries, he⟩ := h
  rw [followVia, he]
  cases fs.link? (here ++ [step]) <;> rfl

theorem followVia_of_not_directory (h : ¬ fs.IsDirectory here) (step : String) (rest : List String) :
    fs.followVia jump here (step :: rest) = .nowhere := by
  rw [followVia]
  split
  · next entries he => exact absurd ⟨entries, he⟩ h
  · rfl

end

/-- a directory, or a name in one that is not the name of a link -/
def IsPlace (fs : FileSystem) (names : List String) : Prop :=
  fs.IsDirectory names
  ∨ ∃ parent name, names = parent ++ [name] ∧ fs.IsDirectory parent ∧ fs.link? names = none

/-- every step leads from a place to a place, if those do that a link puts in -/
theorem followVia_place {fs : FileSystem} {jump : List String → List String → Lead}
    {here steps names : List String}
    (hj : ∀ here steps, steps ≠ [] → jump here steps = .to names → fs.IsPlace names)
    (hp : fs.IsPlace here ∨ steps ≠ []) (h : fs.followVia jump here steps = .to names) :
    fs.IsPlace names := by
  induction steps generalizing here with
  | nil =>
    have he : here = names := Lead.to.inj h
    rw [← he]
    exact hp.resolve_right fun hne => hne rfl
  | cons step rest ih =>
    by_cases hd : fs.IsDirectory here
    · rw [followVia_of_directory hd] at h
      split at h
      · exact ih (Or.inl (Or.inl hd)) h
      · split at h
        · exact ih (Or.inl (Or.inl (isDirectory_dropLast hd))) h
        · split at h
          · cases h
          · cases hl : fs.link? (here ++ [step]) with
            | none =>
              rw [hl] at h
              exact ih (Or.inl (Or.inr ⟨here, step, rfl, hd, hl⟩)) h
            | some target =>
              rw [hl] at h
              exact hj _ _ (List.append_ne_nil_of_left_ne_nil (Path.steps_ne_nil target) rest) h
    · rw [followVia_of_not_directory hd] at h
      cases h

theorem follow_place {fs : FileSystem} {links : Nat} {here steps names : List String}
    (hp : fs.IsPlace here ∨ steps ≠ []) (h : fs.follow links here steps = .to names) :
    fs.IsPlace names := by
  induction links generalizing here steps with
  | zero =>
    refine followVia_place (fun here steps _ hnowhere => ?_) hp h
    cases hnowhere
  | succ links ih => exact followVia_place (fun here steps hne => ih (Or.inr hne)) hp h

theorem lead_place {fs : FileSystem} {path : String} {names : List String}
    (h : fs.lead path = .to names) : fs.IsPlace names := by
  unfold lead at h
  split at h
  · cases h
  · split at h
    · cases h
    · exact follow_place (Or.inr (Path.steps_ne_nil path)) h

/-- the directories and the links are the same, and so is where ways begin and how many links they may
have -/
structure SameWays (fs fs' : FileSystem) : Prop where
  isDirectory_iff : ∀ names, fs'.IsDirectory names ↔ fs.IsDirectory names
  link?_eq : ∀ names, fs'.link? names = fs.link? names
  workingDirectory_eq : fs'.workingDirectory = fs.workingDirectory
  greatestLinks_eq : fs'.greatestLinks = fs.greatestLinks

section
variable {fs fs' : FileSystem} (h : fs.SameWays fs')
include h

theorem followVia_congr {jump jump' : List String → List String → Lead}
    (hj : ∀ here steps, jump' here steps = jump here steps) (here steps : List String) :
    fs'.followVia jump' here steps = fs.followVia jump here steps := by
  induction steps generalizing here with
  | nil => rfl
  | cons step rest ih =>
    by_cases hd : fs.IsDirectory here
    · rw [followVia_of_directory hd, followVia_of_directory ((h.isDirectory_iff here).mpr hd)]
      simp only [ih, hj, h.link?_eq]
    · rw [followVia_of_not_directory hd,
        followVia_of_not_directory fun hd' => hd ((h.isDirectory_iff here).mp hd')]

/-- **Where a path leads is a matter of the directories and the links.** -/
theorem follow_congr (links : Nat) (here steps : List String) :
    fs'.follow links here steps = fs.follow links here steps := by
  induction links generalizing here steps with
  | zero => exact followVia_congr h (fun _ _ => rfl) here steps
  | succ links ih => exact followVia_congr h ih here steps

theorem lead_congr (path : String) : fs'.lead path = fs.lead path := by
  unfold lead
  rw [h.workingDirectory_eq, h.greatestLinks_eq, follow_congr h]

end

/-! ## Writing -/

/-- nothing is at some names, or a file -/
def TakesFile (fs : FileSystem) (names : List String) : Prop :=
  ∀ node, fs.root.at? names = some node → ∃ f, node = .file f

theorem TakesFile.not_directory {fs : FileSystem} {names : List String} (h : fs.TakesFile names) :
    ¬ fs.IsDirectory names := by
  rintro ⟨entries, he⟩
  obtain ⟨f, hf⟩ := h _ he
  cases hf

/-- a file can be written where its path leads, unless something else is there -/
def CanWrite (fs : FileSystem) (path : String) : Prop :=
  ∃ names, fs.lead (Path.tidy path) = .to names ∧ fs.TakesFile names

/-- A file was written: where its path leads, there is a file with the data, and every other place is
as it was. -/
structure Wrote (fs fs' : FileSystem) (path : String) (data : List UInt8) : Prop where
  holds : ∃ f : File, fs'.look (Path.tidy path) = .node (.file f) ∧ f.content = .bytes data
  others : ∀ names, fs.lead (Path.tidy path) ≠ .to names →
    (fs'.root.at? names).map Node.stamp = (fs.root.at? names).map Node.stamp
  workingDirectory_eq : fs'.workingDirectory = fs.workingDirectory
  greatestLinks_eq : fs'.greatestLinks = fs.greatestLinks

theorem write?_eq_none {fs : FileSystem} {path : String} (h : ¬ fs.CanWrite path) (data : List UInt8) :
    fs.write? path data = none := by
  unfold write?
  split
  · rfl
  · rfl
  · next names hl =>
    split
    · next f hf =>
      refine absurd ⟨names, hl, fun node hn => ⟨f, ?_⟩⟩ h
      exact Option.some.inj (hn.symm.trans hf)
    · rfl
    · next hnone =>
      refine absurd ⟨names, hl, fun node hn => ?_⟩ h
      rw [hnone] at hn
      cases hn

/-- what is put where a file is written: the file that was there with the new data, or a new file -/
theorem write?_eq_some {fs : FileSystem} {path : String} {names : List String}
    (hl : fs.lead (Path.tidy path) = .to names) (ht : fs.TakesFile names) (data : List UInt8) :
    ∃ f : File, f.content = .bytes data
      ∧ fs.write? path data = some { fs with root := fs.root.put names (.file f) } := by
  unfold write?
  rw [hl]
  cases hn : fs.root.at? names with
  | none => exact ⟨{ content := .bytes data }, rfl, by simp only [hn]⟩
  | some node =>
    obtain ⟨f, rfl⟩ := ht node hn
    exact ⟨{ f with content := .bytes data }, rfl, by simp only [hn]⟩

/-- a file in the place of a file, or of nothing, is in no way -/
theorem sameWays_put {fs : FileSystem} {parent : List String} {name : String}
    (hparent : fs.IsDirectory parent) (hlink : fs.link? (parent ++ [name]) = none)
    (ht : fs.TakesFile (parent ++ [name])) (f : File) :
    fs.SameWays { fs with root := fs.root.put (parent ++ [name]) (.file f) } := by
  obtain ⟨entries, hparent⟩ := hparent
  have hself : (fs.root.put (parent ++ [name]) (.file f)).at? (parent ++ [name]) = some (.file f) :=
    Node.at?_put_self hparent (.file f)
  have hothers : ∀ names, names ≠ parent ++ [name] →
      ((fs.root.put (parent ++ [name]) (.file f)).at? names).map Node.stamp
        = (fs.root.at? names).map Node.stamp := fun names hne =>
    Node.stamp_put_of_ne hparent (fun es he => ht.not_directory ⟨es, he⟩) f hne
  refine ⟨fun names => ?_, fun names => ?_, rfl, rfl⟩
  · by_cases hne : names = parent ++ [name]
    · rw [hne, isDirectory_iff, hself]
      simp [Node.stamp, ht.not_directory]
    · rw [isDirectory_iff, isDirectory_iff, hothers names hne]
  · by_cases hne : names = parent ++ [name]
    · rw [hne, hlink]
      unfold link?
      rw [hself]
    · apply Option.ext
      intro target
      rw [link?_eq_some_iff, link?_eq_some_iff, hothers names hne]

/-- **Writing a file** succeeds where it can, and changes that file alone. -/
theorem exists_wrote {fs : FileSystem} {path : String} (h : fs.CanWrite path) (data : List UInt8) :
    ∃ fs', fs.write? path data = some fs' ∧ fs.Wrote fs' path data := by
  obtain ⟨names, hl, ht⟩ := h
  obtain ⟨f, hf, hw⟩ := write?_eq_some hl ht data
  obtain ⟨parent, name, rfl, hdir, hlink⟩ := (lead_place hl).resolve_left ht.not_directory
  have ⟨entries, hparent⟩ := hdir
  refine ⟨_, hw, ⟨f, ?_, hf⟩, ?_, rfl, rfl⟩
  · rw [look, lead_congr (sameWays_put hdir hlink ht f), hl]
    simp only [Node.at?_put_self hparent (.file f)]
  · intro others hne
    apply Node.stamp_put_of_ne hparent fun es he => ht.not_directory ⟨es, he⟩
    intro he
    exact hne (by rw [hl, he])

end FileSystem

end MacroFusion
