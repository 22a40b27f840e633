import Mathlib.Data.List.Basic
import MacroFusion.Proofs.Files.Writing
import MacroFusion.Proofs.Text.Order

/-!
# Walks: which plugin files are found, and in what order

A search for plugins goes through a directory and all that is below it, as far as a path can be read.  What
it finds are the entries with the name of a plugin that are neither directories nor links to one; they are
told apart by the names that lead to them.

* `FileSystem.walk`       what is found below a node, as names;
* `pluginFiles_eq`        a search finds this, under the paths that the names make;
* `FileSystem.IsPlugin`   names that lead to an entry that counts, and `Node.Proper`, a tree with usable
                          names;
* `isPlugin_singleton_iff`, `isPlugin_cons_iff`   they are in the directory itself or below one of its
                          entries, hence `mem_walk_iff`: a walk finds just these;
* `isPlugin_iff_isRegularPlugin`   they are the regular files, if nothing but files and directories is there
                          (`Node.Plain`) and no path is too long (`Node.Shallow`);
* `Precedes`              where two ways part, files come before subdirectories, and then names decide;
* `walk_pairwise`         a walk goes in this order.
-/

namespace MacroFusion

theorem Dictionary.lookup_iff_mem {α : Type} {d : Dictionary α} (h : d.keys.Nodup) {key : String}
    {value : α} : d.lookup key = some value ↔ (key, value) ∈ d := by
  refine ⟨mem_of_lookup, fun hm => ?_⟩
  obtain ⟨before, after, rfl⟩ := List.append_of_mem hm
  refine List.lookup_eq_some_iff.mpr ⟨before, after, rfl, fun entry he => ?_⟩
  rw [keys, List.map_append, List.nodup_append] at h
  have hne := h.2.2 entry.1 (List.mem_map_of_mem he) key (by simp)
  simpa using hne.symm

namespace Node

/-- Induction over a tree, directory by directory. -/
theorem induction {P : Node → Prop} (leaf : ∀ node, node.isDirectory = false → P node)
    (directory : ∀ entries, (∀ e ∈ entries, P e.2) → P (.directory entries)) : ∀ node, P node
  | .directory entries => directory entries fun e _he => induction leaf directory e.2
  | .file f => leaf (.file f) rfl
  | .link target => leaf (.link target) rfl
  | .special => leaf .special rfl
termination_by node => sizeOf node
decreasing_by
  have h1 := List.sizeOf_lt_of_mem _he
  obtain ⟨name, node⟩ := e
  simp only [Prod.mk.sizeOf_spec, Node.directory.sizeOf_spec] at h1 ⊢
  omega

/-- the subdirectories of a directory in the order of their names -/
def subdirectories (entries : List (String × Node)) : List (String × Node) :=
  (entries.filter (·.2.isDirectory)).mergeSort fun a b => !decide (b.1 < a.1)

theorem mem_subdirectories {entries : List (String × Node)} {e : String × Node} :
    e ∈ subdirectories entries ↔ e ∈ entries ∧ e.2.isDirectory = true := by
  rw [subdirectories, List.mem_mergeSort, List.mem_filter]

end Node

namespace FileSystem

/-- the plugin files of a directory itself in the order of their names -/
def ownPlugins (fs : FileSystem) (path : String) (entries : List (String × Node)) : List String :=
  (sortNames (fs.fileNames path entries)).filter isPluginName

/-- the plugin files below a node, each as the names that lead to it -/
def walk (fs : FileSystem) (path : String) : Node → List (List String)
  | .directory entries =>
    if Path.isTooLong path then []
    else (fs.ownPlugins path entries).map ([·])
      ++ (Node.subdirectories entries).attach.flatMap fun e =>
        (fs.walk (join path e.1.1) e.1.2).map (e.1.1 :: ·)
  | _ => []
termination_by node => sizeOf node
decreasing_by
  have h1 := List.sizeOf_lt_of_mem (Node.mem_subdirectories.mp e.2).1
  obtain ⟨⟨name, node⟩, he⟩ := e
  simp only [Prod.mk.sizeOf_spec, Node.directory.sizeOf_spec] at h1 ⊢
  omega

section
variable (fs : FileSystem) (path : String)

theorem walk_leaf {node : Node} (h : node.isDirectory = false) : fs.walk path node = [] := by
  cases node with
  | directory entries => cases h
  | _ => simp [walk]

theorem walk_of_tooLong (h : Path.isTooLong path = true) (node : Node) : fs.walk path node = [] := by
  cases node with
  | directory entries => rw [walk, if_pos h]
  | _ => exact walk_leaf fs path rfl

theorem walk_directory (h : Path.isTooLong path = false) (entries : List (String × Node)) :
    fs.walk path (.directory entries) = (fs.ownPlugins path entries).map ([·])
      ++ (Node.subdirectories entries).flatMap fun e => (fs.walk (join path e.1) e.2).map (e.1 :: ·) := by
  rw [walk, if_neg (Bool.eq_false_iff.mp h)]
  congr 1
  exact (List.flatMap_subtype fun _ _ => rfl).trans (by rw [List.unattach_attach])

end

/-- the path of what some names lead to from a directory -/
def below (path : String) (names : List String) : String := names.foldl join path

theorem below_cons (path name : String) (names : List String) :
    below path (name :: names) = below (join path name) names := rfl

theorem pluginFilesBelow_eq (fs : FileSystem) (path : String) (entries : List (String × Node)) :
    fs.pluginFilesBelow path entries = (entries.filter (·.2.isDirectory)).map fun e =>
      (e.1, fs.pluginFiles (join path e.1) e.2) := by
  induction entries with
  | nil => rw [pluginFilesBelow, List.filter_nil, List.map_nil]
  | cons e entries ih =>
    obtain ⟨name, node⟩ := e
    rw [pluginFilesBelow, ih]
    by_cases hd : node.isDirectory = true
    · rw [if_pos hd, List.filter_cons_of_pos (by exact hd), List.map_cons]
    · rw [if_neg hd, List.filter_cons_of_neg (by exact hd)]

theorem pluginFiles_directory (fs : FileSystem) {path : String} (h : Path.isTooLong path = false)
    (entries : List (String × Node)) :
    fs.pluginFiles path (.directory entries) = (fs.ownPlugins path entries).map (join path)
      ++ (Node.subdirectories entries).flatMap fun e => fs.pluginFiles (join path e.1) e.2 := by
  have hsort : (fs.pluginFilesBelow path entries).mergeSort (fun a b => !decide (b.1 < a.1))
      = (Node.subdirectories entries).map fun e => (e.1, fs.pluginFiles (join path e.1) e.2) := by
    rw [pluginFilesBelow_eq, Node.subdirectories]
    symm
    apply List.map_mergeSort
    intro a _ b _
    rfl
  rw [pluginFiles, if_neg (Bool.eq_false_iff.mp h), hsort, List.flatMap_map]
  rfl

/-- **A search finds what a walk finds**, under the paths that the names make. -/
theorem pluginFiles_eq (fs : FileSystem) (path : String) (node : Node) :
    fs.pluginFiles path node = (fs.walk path node).map (below path) := by
  induction node using Node.induction generalizing path with
  | leaf node hl =>
    rw [walk_leaf fs path hl, List.map_nil]
    cases node with
    | directory entries => cases hl
    | _ => simp [pluginFiles]
  | directory entries ih =>
    cases hlong : Path.isTooLong path with
    | true => rw [walk_of_tooLong fs path hlong, pluginFiles, if_pos hlong, List.map_nil]
    | false =>
      rw [pluginFiles_directory fs hlong, walk_directory fs path hlong, List.map_append, List.map_map,
        List.map_flatMap]
      congr 1
      apply List.flatMap_congr
      intro e he
      rw [ih e (Node.mem_subdirectories.mp he).1, List.map_map]
      rfl

/-! ## Long paths -/

theorem size_le_join (path name : String) :
    path.utf8ByteSize + name.utf8ByteSize ≤ (join path name).utf8ByteSize := by
  unfold join
  split
  · exact Nat.le_of_eq String.utf8ByteSize_append.symm
  · rw [String.utf8ByteSize_append, String.utf8ByteSize_append]
    omega

theorem isTooLong_eq_false {path : String} :
    Path.isTooLong path = false ↔ path.utf8ByteSize ≤ Path.greatestLength := by
  rw [Path.isTooLong, decide_eq_false_iff_not, Nat.not_lt]

/-- what is below a path that is too long has one too -/
theorem not_tooLong_of_below {path : String} {names : List String}
    (h : Path.isTooLong (below path names) = false) : Path.isTooLong path = false := by
  induction names generalizing path with
  | nil => exact h
  | cons name names ih =>
    have hjoin := isTooLong_eq_false.mp (ih h)
    have hle := size_le_join path name
    exact isTooLong_eq_false.mpr (by omega)

end FileSystem

/-! ## What a walk finds -/

/-- a name that a directory can have in it: not empty, and without a slash -/
def Path.IsName (name : String) : Prop := name ≠ "" ∧ '/' ∉ name.toList

instance (name : String) : Decidable (Path.IsName name) :=
  inferInstanceAs (Decidable (name ≠ "" ∧ '/' ∉ name.toList))

namespace Node

/-- no directory has two entries of one name, or one whose name cannot be a step of a path -/
def Proper (node : Node) : Prop :=
  ∀ names entries, node.at? names = some (directory entries) →
    (Dictionary.keys entries).Nodup ∧ ∀ name ∈ Dictionary.keys entries, Path.IsName name

theorem Proper.child {entries : List (String × Node)} (h : (directory entries).Proper)
    {e : String × Node} (he : e ∈ entries) : e.2.Proper := by
  intro names inner hi
  apply h (e.1 :: names)
  rw [at?_directory_cons, (Dictionary.lookup_iff_mem (h [] entries (at?_nil _)).1).mpr he]
  exact hi

theorem proper_leaf {node : Node} (hl : node.isDirectory = false) : node.Proper := by
  intro names entries h
  cases node with
  | directory others => cases hl
  | _ =>
    cases names with
    | nil => cases h
    | cons name names => cases h

theorem proper_file (f : File) : (file f).Proper := proper_leaf rfl

theorem proper_link (target : String) : (link target).Proper := proper_leaf rfl

theorem proper_directory {entries : List (String × Node)} (hkeys : (Dictionary.keys entries).Nodup)
    (hnames : ∀ name ∈ Dictionary.keys entries, Path.IsName name)
    (hchildren : ∀ e ∈ entries, e.2.Proper) : (directory entries).Proper := by
  intro names inner h
  cases names with
  | nil =>
    cases h
    exact ⟨hkeys, hnames⟩
  | cons name names =>
    rw [at?_directory_cons] at h
    obtain ⟨child, hl, hc⟩ := Option.bind_eq_some_iff.mp h
    exact hchildren _ (Dictionary.mem_of_lookup hl) names inner hc

/-- names that lead somewhere can be steps of a path -/
theorem Proper.isName {node : Node} (h : node.Proper) {names : List String} {found : Node}
    (hf : node.at? names = some found) : ∀ name ∈ names, Path.IsName name := by
  induction names generalizing node with
  | nil => exact fun name hn => absurd hn List.not_mem_nil
  | cons first names ih =>
    cases node with
    | directory entries =>
      rw [at?_directory_cons] at hf
      obtain ⟨child, hl, hc⟩ := Option.bind_eq_some_iff.mp hf
      have hmem := Dictionary.mem_of_lookup hl
      refine List.forall_mem_cons.mpr ⟨?_, ih (h.child hmem) hc⟩
      exact (h [] entries (at?_nil _)).2 first (List.mem_map_of_mem hmem)
    | _ => cases hf

/-- the names lead to a regular file, and the last of them is the name of a plugin -/
def IsRegularPlugin (node : Node) (names : List String) : Prop :=
  (∃ f, node.at? names = some (file f))
  ∧ ∃ name, names.getLast? = some name
    ∧ Text.endsIn name ".py" = true ∧ Text.beginsWith name "__" = false

/-- nothing but files and directories -/
def Plain (node : Node) : Prop :=
  ∀ names found, node.at? names = some found → found.isDirectory = true ∨ ∃ f, found = file f

/-- no directory has a path that is too long to be read -/
def Shallow (node : Node) (path : String) : Prop :=
  ∀ names entries, node.at? names = some (directory entries) →
    Path.isTooLong (FileSystem.below path names) = false

end Node

namespace FileSystem

/-- The names lead to an entry that is neither a directory nor a link to one, the last of them is the name of
a plugin, and the directory that it stands in has a path that can be read. -/
structure IsPlugin (fs : FileSystem) (path : String) (node : Node) (names : List String) : Prop where
  listed : ∃ entry, node.at? names = some entry ∧ fs.isListed (below path names) entry = true
  named : ∃ name, names.getLast? = some name
    ∧ Text.endsIn name ".py" = true ∧ Text.beginsWith name "__" = false
  reached : Path.isTooLong (below path names.dropLast) = false

section
variable {fs : FileSystem} {path : String}

theorem mem_ownPlugins {entries : List (String × Node)} {name : String} :
    name ∈ fs.ownPlugins path entries
      ↔ (∃ entry, (name, entry) ∈ entries ∧ fs.isListed (join path name) entry = true)
        ∧ Text.endsIn name ".py" = true ∧ Text.beginsWith name "__" = false := by
  rw [ownPlugins, List.mem_filter, sortNames, List.mem_mergeSort, isPluginName, Bool.and_eq_true,
    Bool.not_eq_true', fileNames, List.mem_map]
  refine and_congr_left' ⟨?_, ?_⟩
  · rintro ⟨⟨name, entry⟩, he, rfl⟩
    exact ⟨entry, List.mem_filter.mp he⟩
  · rintro ⟨entry, hmem, hlisted⟩
    exact ⟨(name, entry), List.mem_filter.mpr ⟨hmem, hlisted⟩, rfl⟩

theorem nil_not_mem_walk (node : Node) : [] ∉ fs.walk path node := by
  cases node with
  | directory entries =>
    cases hlong : Path.isTooLong path with
    | true =>
      rw [walk_of_tooLong fs path hlong]
      exact List.not_mem_nil
    | false =>
      rw [walk_directory fs path hlong]
      simp
  | _ =>
    rw [walk_leaf fs path rfl]
    exact List.not_mem_nil

section
variable (hlong : Path.isTooLong path = false)
include hlong

/-- a single name is found among the files of the directory itself -/
theorem singleton_mem_walk {entries : List (String × Node)} {name : String} :
    [name] ∈ fs.walk path (.directory entries) ↔ name ∈ fs.ownPlugins path entries := by
  rw [walk_directory fs path hlong, List.mem_append, List.mem_flatMap]
  constructor
  · rintro (h | ⟨e, -, h⟩)
    · simpa using h
    · obtain ⟨names, hn, heq⟩ := List.mem_map.mp h
      rw [(List.cons.inj heq).2] at hn
      exact absurd hn (nil_not_mem_walk e.2)
  · intro h
    exact .inl (List.mem_map_of_mem h)

/-- several names are found below the subdirectory that the first of them names -/
theorem cons_mem_walk {entries : List (String × Node)} {first second : String} {names : List String} :
    first :: second :: names ∈ fs.walk path (.directory entries)
      ↔ ∃ child, (first, child) ∈ entries ∧ second :: names ∈ fs.walk (join path first) child := by
  rw [walk_directory fs path hlong, List.mem_append, List.mem_flatMap]
  constructor
  · rintro (h | ⟨e, he, h⟩)
    · simp at h
    · obtain ⟨rest, hr, heq⟩ := List.mem_map.mp h
      obtain ⟨rfl, rfl⟩ := List.cons.inj heq
      exact ⟨e.2, (Node.mem_subdirectories.mp he).1, hr⟩
  · rintro ⟨child, hc, hrest⟩
    have hdir : child.isDirectory = true := by
      cases hd : child.isDirectory with
      | true => rfl
      | false =>
        rw [walk_leaf fs _ hd] at hrest
        cases hrest
    exact .inr ⟨(first, child), Node.mem_subdirectories.mpr ⟨hc, hdir⟩, List.mem_map_of_mem hrest⟩

end

section
variable {entries : List (String × Node)} (hkeys : (Dictionary.keys entries).Nodup)
include hkeys

theorem isPlugin_singleton_iff {name : String} :
    fs.IsPlugin path (.directory entries) [name]
      ↔ Path.isTooLong path = false ∧ name ∈ fs.ownPlugins path entries := by
  rw [mem_ownPlugins]
  constructor
  · rintro ⟨⟨entry, hat, hlisted⟩, ⟨last, hlast, hname⟩, hreached⟩
    cases hlast
    rw [Node.at?_directory_cons] at hat
    obtain ⟨child, hl, hc⟩ := Option.bind_eq_some_iff.mp hat
    rw [Node.at?_nil] at hc
    cases hc
    exact ⟨hreached, ⟨entry, Dictionary.mem_of_lookup hl, hlisted⟩, hname⟩
  · rintro ⟨hreached, ⟨entry, hmem, hlisted⟩, hname⟩
    refine ⟨⟨entry, ?_, hlisted⟩, ⟨name, rfl, hname⟩, hreached⟩
    rw [Node.at?_directory_cons, (Dictionary.lookup_iff_mem hkeys).mpr hmem]
    exact Node.at?_nil entry

theorem isPlugin_cons_iff {first second : String} {names : List String} :
    fs.IsPlugin path (.directory entries) (first :: second :: names)
      ↔ ∃ child, (first, child) ∈ entries ∧ fs.IsPlugin (join path first) child (second :: names) := by
  constructor
  · rintro ⟨⟨entry, hat, hlisted⟩, hname, hreached⟩
    rw [Node.at?_directory_cons] at hat
    obtain ⟨child, hl, hc⟩ := Option.bind_eq_some_iff.mp hat
    exact ⟨child, Dictionary.mem_of_lookup hl, ⟨entry, hc, hlisted⟩, hname, hreached⟩
  · rintro ⟨child, hmem, ⟨entry, hat, hlisted⟩, hname, hreached⟩
    refine ⟨⟨entry, ?_, hlisted⟩, hname, hreached⟩
    rw [Node.at?_directory_cons, (Dictionary.lookup_iff_mem hkeys).mpr hmem]
    exact hat

end

theorem not_isPlugin_nil (node : Node) : ¬ fs.IsPlugin path node [] := by
  rintro ⟨-, ⟨name, hname, -⟩, -⟩
  cases hname

theorem not_isPlugin_leaf {node : Node} (h : node.isDirectory = false) (names : List String) :
    ¬ fs.IsPlugin path node names := by
  cases names with
  | nil => exact not_isPlugin_nil node
  | cons first names =>
    rintro ⟨⟨entry, hat, -⟩, -, -⟩
    cases node with
    | directory entries => cases h
    | _ => cases hat

/-- **A walk finds the plugin files**, at any depth, and nothing else. -/
theorem mem_walk_iff {node : Node} (h : node.Proper) (names : List String) :
    names ∈ fs.walk path node ↔ fs.IsPlugin path node names := by
  induction node using Node.induction generalizing path names with
  | leaf node hl =>
    rw [walk_leaf fs path hl]
    exact iff_of_false List.not_mem_nil (not_isPlugin_leaf hl names)
  | directory entries ih =>
    have hkeys := (h [] entries (Node.at?_nil _)).1
    cases hlong : Path.isTooLong path with
    | true =>
      rw [walk_of_tooLong fs path hlong]
      refine iff_of_false List.not_mem_nil fun hp => ?_
      exact Bool.false_ne_true ((not_tooLong_of_below hp.reached).symm.trans hlong)
    | false =>
      rcases names with _ | ⟨first, _ | ⟨second, names⟩⟩
      · exact iff_of_false (nil_not_mem_walk _) (not_isPlugin_nil _)
      · rw [singleton_mem_walk hlong, isPlugin_singleton_iff hkeys, hlong]
        exact (and_iff_right rfl).symm
      · rw [cons_mem_walk hlong, isPlugin_cons_iff hkeys]
        refine exists_congr fun child => and_congr_right fun hc => ?_
        exact ih (first, child) hc (h.child hc) _

/-- where nothing but files and directories is, and all of these can be read, the plugin files are the
regular ones -/
theorem isPlugin_iff_isRegularPlugin {node : Node} (h : node.Plain) (hs : node.Shallow path)
    {names : List String} : fs.IsPlugin path node names ↔ node.IsRegularPlugin names := by
  constructor
  · rintro ⟨⟨entry, hat, hlisted⟩, hname, -⟩
    refine ⟨?_, hname⟩
    rcases h names entry hat with hdir | ⟨f, rfl⟩
    · cases entry with
      | directory entries => cases hlisted
      | _ => cases hdir
    · exact ⟨f, hat⟩
  · rintro ⟨⟨f, hat⟩, name, hlast, hname⟩
    refine ⟨⟨.file f, hat, rfl⟩, ⟨name, hlast, hname⟩, ?_⟩
    -- what the file stands in is a directory
    have hsplit : names = names.dropLast ++ [name] := (List.dropLast_append_getLast? name hlast).symm
    rw [hsplit] at hat
    obtain ⟨entries, hparent⟩ := Node.exists_directory_of_at? hat
    exact hs _ entries hparent

end

end FileSystem

namespace Node

/-! ## The order of a walk -/

/-- the order of a walk: where two ways part, a file of the directory comes before all that is in
subdirectories, and otherwise the names decide -/
inductive Precedes : List String → List String → Prop where
  | files {a b : String} (h : a < b) : Precedes [a] [b]
  | ownFirst {a b c : String} {cs : List String} : Precedes [a] (b :: c :: cs)
  | directories {a b c d : String} {cs ds : List String} (h : a < b) :
      Precedes (a :: c :: cs) (b :: d :: ds)
  | within {a c d : String} {cs ds : List String} (h : Precedes (c :: cs) (d :: ds)) :
      Precedes (a :: c :: cs) (a :: d :: ds)

theorem Precedes.asymm {x y : List String} (h : Precedes x y) : ¬ Precedes y x := by
  induction h with
  | files h =>
    rintro (h' | _)
    exact String.lt_asymm h h'
  | ownFirst => rintro ⟨⟩
  | directories h =>
    rintro (_ | _ | h' | _)
    · exact String.lt_asymm h h'
    · exact String.lt_irrefl _ h
  | within h ih =>
    rintro (_ | _ | h' | h')
    · exact String.lt_irrefl _ h'
    · exact ih h'

instance : Std.Irrefl Precedes := ⟨fun _ h => h.asymm h⟩

instance : Std.Antisymm Precedes := ⟨fun _ _ h h' => absurd h' h.asymm⟩

theorem Precedes.ne_nil {x y : List String} (h : Precedes x y) : x ≠ [] ∧ y ≠ [] := by
  cases h <;> simp

theorem Precedes.cons {x y : List String} (h : Precedes x y) (name : String) :
    Precedes (name :: x) (name :: y) := by
  obtain ⟨hx, hy⟩ := h.ne_nil
  obtain ⟨c, cs, rfl⟩ := List.exists_cons_of_ne_nil hx
  obtain ⟨d, ds, rfl⟩ := List.exists_cons_of_ne_nil hy
  exact .within h

end Node

namespace FileSystem

variable {fs : FileSystem} {path : String}

theorem exists_cons_of_mem_walk {node : Node} {names : List String} (h : names ∈ fs.walk path node) :
    ∃ first rest, names = first :: rest :=
  List.exists_cons_of_ne_nil fun e => nil_not_mem_walk node (e ▸ h)

section
variable {entries : List (String × Node)} (h : (Dictionary.keys entries).Nodup)
include h

theorem ownPlugins_pairwise : (fs.ownPlugins path entries).Pairwise (· < ·) := by
  have hfiles : ((fs.fileNames path entries).map fun name => name).Nodup := by
    rw [List.map_id']
    exact h.sublist (List.filter_sublist.map _)
  exact (Text.pairwise_lt_mergeSort hfiles).filter _

theorem subdirectories_pairwise : (Node.subdirectories entries).Pairwise fun e e' => e.1 < e'.1 :=
  Text.pairwise_lt_mergeSort (h.sublist (List.filter_sublist.map _))

end

/-- **A walk goes in order**: the files of a directory, then its subdirectories, by their names. -/
theorem walk_pairwise {node : Node} (h : node.Proper) : (fs.walk path node).Pairwise Node.Precedes := by
  induction node using Node.induction generalizing path with
  | leaf node hl =>
    rw [walk_leaf fs path hl]
    exact .nil
  | directory entries ih =>
    have hkeys := (h [] entries (Node.at?_nil _)).1
    cases hlong : Path.isTooLong path with
    | true =>
      rw [walk_of_tooLong fs path hlong]
      exact .nil
    | false =>
      rw [walk_directory fs path hlong, List.pairwise_append, List.pairwise_flatMap]
      refine ⟨?_, ⟨fun e he => ?_, ?_⟩, ?_⟩
      · exact List.pairwise_map.mpr ((ownPlugins_pairwise hkeys).imp .files)
      · have hmem := (Node.mem_subdirectories.mp he).1
        exact List.pairwise_map.mpr ((ih e hmem (h.child hmem)).imp fun hxy => hxy.cons e.1)
      · refine (subdirectories_pairwise hkeys).imp fun hlt x hx y hy => ?_
        obtain ⟨xs, hxs, rfl⟩ := List.mem_map.mp hx
        obtain ⟨ys, hys, rfl⟩ := List.mem_map.mp hy
        obtain ⟨c, cs, rfl⟩ := exists_cons_of_mem_walk hxs
        obtain ⟨d, ds, rfl⟩ := exists_cons_of_mem_walk hys
        exact .directories hlt
      · intro x hx y hy
        obtain ⟨name, -, rfl⟩ := List.mem_map.mp hx
        obtain ⟨e, -, hy⟩ := List.mem_flatMap.mp hy
        obtain ⟨ys, hys, rfl⟩ := List.mem_map.mp hy
        obtain ⟨d, ds, rfl⟩ := exists_cons_of_mem_walk hys
        exact .ownFirst

end FileSystem

end MacroFusion
