import Mathlib.Data.List.Sort
import MacroFusion.Plugin.Shelf
import MacroFusion.Proofs.Files.Paths

/-!
# Discovery: the paths of the plugin files below a directory

A search for plugins gives paths, in the order of a walk.  This need not be their own order: the files of a
directory come before what is in its subdirectories, and a slash is compared like any other character.  What
is found need not be a regular file either, and a regular file is not found if the path of its directory is
too long.

* `mem_discover_iff`, `discover_nodup`, `discover_enumerates`   each plugin file is found once, in the order
                    of a walk;
* `discover_not_regular`   they are not just the regular files;
* `SlashOrdered`    a tree in which the order of a walk is that of the paths;
* `discover_sorted_iff`   so it is for no other tree.
-/

namespace MacroFusion

theorem Node.Precedes.append {x y : List String} (h : Precedes x y) (above : List String) :
    Precedes (above ++ x) (above ++ y) := by
  induction above with
  | nil => exact h
  | cons name above ih => exact ih.cons name

namespace FileSystem

open Node

variable {fs : FileSystem} {path : String} {node : Node}

theorem IsPlugin.isWay {names : List String} (h : fs.IsPlugin path node names) (hp : node.Proper) :
    Path.IsWay names := by
  obtain ⟨⟨entry, hat, -⟩, ⟨name, hname, -⟩, -⟩ := h
  refine ⟨?_, hp.isName hat⟩
  rintro rfl
  cases hname

theorem IsPlugin.isName {above names : List String} {name : String}
    (h : fs.IsPlugin path node (above ++ name :: names)) (hp : node.Proper) : Path.IsName name :=
  (h.isWay hp).2 name (List.mem_append_right _ List.mem_cons_self)

/-! ## Where a walk goes in the order of the paths -/

/-- in every directory, a plugin file comes before each subdirectory with plugin files, and these come in
the order of their names, if a slash is put after the name of a subdirectory -/
structure SlashOrdered (fs : FileSystem) (path : String) (node : Node) : Prop where
  files : ∀ above name sub next rest, fs.IsPlugin path node (above ++ [name]) →
    fs.IsPlugin path node (above ++ sub :: next :: rest) → name < sub ++ "/"
  directories : ∀ above sub next rest sub' next' rest',
    fs.IsPlugin path node (above ++ sub :: next :: rest) →
    fs.IsPlugin path node (above ++ sub' :: next' :: rest') → sub < sub' → sub ++ "/" < sub' ++ "/"

theorem toList_slash (name : String) : (name ++ "/").toList = name.toList ++ ['/'] :=
  String.toList_append

theorem lt_slashed_iff {name : String} (h : Path.IsName name) (sub next : String) (rest : List String) :
    slashed [name] < slashed (sub :: next :: rest) ↔ name < sub ++ "/" := by
  rw [slashed_singleton, slashed_cons_cons, Text.lt_slash_iff h.2, String.lt_iff, toList_slash]

theorem slashed_lt_slashed_iff {sub sub' : String} (h : Path.IsName sub) (h' : Path.IsName sub')
    (hne : sub ≠ sub') (next next' : String) (rest rest' : List String) :
    slashed (sub :: next :: rest) < slashed (sub' :: next' :: rest') ↔ sub ++ "/" < sub' ++ "/" := by
  rw [slashed_cons_cons, slashed_cons_cons,
    Text.slash_lt_slash_iff h.2 h'.2 fun e => hne (String.toList_inj.mp e), String.lt_iff, toList_slash,
    toList_slash]

/-- in such a tree, what decides the order of a walk decides the order of the paths -/
theorem SlashOrdered.slashed_lt (hs : fs.SlashOrdered path node) (hp : node.Proper) {x y : List String}
    (h : Precedes x y) (above : List String) (hx : fs.IsPlugin path node (above ++ x))
    (hy : fs.IsPlugin path node (above ++ y)) : slashed x < slashed y := by
  induction h generalizing above with
  | files h => exact String.lt_iff.mp h
  | ownFirst => exact (lt_slashed_iff (hx.isName hp) _ _ _).mpr (hs.files above _ _ _ _ hx hy)
  | directories h =>
    exact (slashed_lt_slashed_iff (hx.isName hp) (hy.isName hp) (String.ne_of_lt h) _ _ _ _).mpr
      (hs.directories above _ _ _ _ _ _ hx hy h)
  | @within a _ _ _ _ h ih =>
    rw [List.append_cons] at hx hy
    exact (slashed_append_lt_iff [a] (List.cons_ne_nil _ _) (List.cons_ne_nil _ _)).mpr (ih _ hx hy)

end FileSystem

/-- a list in some order has another one as well if that holds wherever the first one does -/
theorem pairwise_iff_forall {α : Type} {R S : α → α → Prop} {xs : List α} (h : xs.Pairwise S)
    (asymm : ∀ a b, S a b → ¬ S b a) : xs.Pairwise R ↔ ∀ a ∈ xs, ∀ b ∈ xs, S a b → R a b := by
  refine ⟨fun hR => ?_, fun hR => h.imp_of_mem fun ha hb hab => hR _ ha _ hb hab⟩
  induction xs with
  | nil => exact fun a ha => absurd ha List.not_mem_nil
  | cons c xs ih =>
    obtain ⟨hS, hxs⟩ := List.pairwise_cons.mp h
    obtain ⟨hc, hR⟩ := List.pairwise_cons.mp hR
    intro a ha b hb hab
    rcases List.mem_cons.mp ha with rfl | ha'
    · rcases List.mem_cons.mp hb with rfl | hb'
      · exact absurd hab (asymm _ _ hab)
      · exact hc b hb'
    · rcases List.mem_cons.mp hb with rfl | hb'
      · exact absurd hab (asymm _ _ (hS a ha'))
      · exact ih hxs hR a ha' b hb' hab

namespace Shelf

open FileSystem Node

section
variable {fs : FileSystem} {directory : String} {node : Node} (h : fs.find? directory = some node)
include h

theorem discover_eq : discover fs directory = (fs.walk directory node).map (below directory) := by
  rw [discover, h]
  exact fs.pluginFiles_eq directory node

variable (hp : node.Proper)
include hp

theorem mem_discover_iff {names : List String} (hway : Path.IsWay names) :
    below directory names ∈ discover fs directory ↔ fs.IsPlugin directory node names := by
  rw [discover_eq h, ← mem_walk_iff hp, List.mem_map]
  constructor
  · rintro ⟨found, hfound, heq⟩
    rwa [← below_inj (((mem_walk_iff hp found).mp hfound).isWay hp) hway heq]
  · intro hn
    exact ⟨names, hn, rfl⟩

theorem discover_nodup : (discover fs directory).Nodup := by
  rw [discover_eq h]
  refine List.pairwise_map.mpr ((walk_pairwise hp).imp_of_mem fun {x y} hx hy hxy heq => ?_)
  rw [mem_walk_iff hp] at hx hy
  obtain rfl := below_inj (hx.isWay hp) (hy.isWay hp) heq
  exact hxy.asymm hxy

theorem discover_pairwise_le_iff : (discover fs directory).Pairwise (· ≤ ·)
    ↔ ∀ x y, fs.IsPlugin directory node x → fs.IsPlugin directory node y → Precedes x y →
      slashed x < slashed y := by
  rw [discover_eq h, List.pairwise_map, pairwise_iff_forall (walk_pairwise hp) fun _ _ => Precedes.asymm]
  simp only [mem_walk_iff hp]
  refine forall_congr' fun x => ⟨fun hall y hx hy hxy => ?_, fun hall hx y hy hxy => ?_⟩
  · have hne : below directory x ≠ below directory y := by
      intro heq
      obtain rfl := below_inj (hx.isWay hp) (hy.isWay hp) heq
      exact hxy.asymm hxy
    exact (below_lt_below_iff (hx.isWay hp) (hy.isWay hp) directory).mp
      (Std.lt_of_le_of_ne (hall hx y hy hxy) hne)
  · exact Std.le_of_lt ((below_lt_below_iff (hx.isWay hp) (hy.isWay hp) directory).mpr
      (hall y hx hy hxy))

end

/-- a directory with a plugin file, a subdirectory with another one, links that lead nowhere and to
a directory, and two names that are none -/
def nested : Node :=
  .directory [("z.py", .file ⟨.bytes [], true⟩), ("a", .directory [("b.py", .file ⟨.bytes [], true⟩)]),
    ("gone.py", .link "nowhere"), ("a.py", .link "a"), ("__init__.py", .file ⟨.bytes [], true⟩),
    ("m.py", .directory [])]

/-- the directory `plugins` of an otherwise empty tree -/
def nestedFiles : FileSystem := { root := .directory [("plugins", nested)], workingDirectory := [] }

theorem nested_proper : nested.Proper := by
  have hleaf : (Node.directory [("b.py", .file ⟨.bytes [], true⟩)]).Proper :=
    proper_directory (by decide) (by decide) (by simp [proper_file])
  have hempty : (Node.directory []).Proper := proper_directory (by decide) (by decide) (by simp)
  refine proper_directory (by decide) (by decide) ?_
  simp [proper_file, proper_link, hleaf, hempty]

theorem find?_nested : nestedFiles.find? "plugins" = some nested := by
  rfl

theorem isPlugin_nested {names : List String} {entry : Node} {name : String}
    (hat : nested.at? names = some entry)
    (hlisted : nestedFiles.isListed (below "plugins" names) entry = true)
    (hlast : names.getLast? = some name)
    (hname : isPluginName name = true) (hshort : Path.isTooLong (below "plugins" names.dropLast) = false) :
    nestedFiles.IsPlugin "plugins" nested names := by
  rw [isPluginName, Bool.and_eq_true, Bool.not_eq_true'] at hname
  exact ⟨⟨entry, hat, hlisted⟩, ⟨name, hlast, hname⟩, hshort⟩

/-- directories in each other, all of one name, and a file in the last of them -/
def chained (name : String) : Nat → Node
  | 0 => .directory [("deep.py", .file ⟨.bytes [], true⟩)]
  | depth + 1 => .directory [(name, chained name depth)]

theorem chained_proper {name : String} (h : Path.IsName name) (depth : Nat) :
    (chained name depth).Proper := by
  induction depth with
  | zero => exact proper_directory (by decide) (by decide) (by simp [proper_file])
  | succ depth ih =>
    refine proper_directory (by simp [Dictionary.keys]) ?_ ?_
    · simpa [Dictionary.keys] using h
    · simpa using ih

theorem chained_at? (name : String) (depth : Nat) :
    (chained name depth).at? (List.replicate depth name ++ ["deep.py"])
      = some (.file ⟨.bytes [], true⟩) := by
  induction depth with
  | zero => rfl
  | succ depth ih =>
    rw [List.replicate_succ, List.cons_append, chained, at?_directory_cons, List.lookup_cons_self]
    exact ih

/-- every name makes a path longer by at least its length -/
theorem size_below_replicate (path name : String) (depth : Nat) :
    path.utf8ByteSize + depth * name.utf8ByteSize
      ≤ (below path (List.replicate depth name)).utf8ByteSize := by
  induction depth generalizing path with
  | zero =>
    rw [Nat.zero_mul]
    exact Nat.le_refl _
  | succ depth ih =>
    have hjoin := size_le_join path name
    have hrest := ih (join path name)
    rw [List.replicate_succ, below_cons, Nat.succ_mul]
    omega

/-- five hundred directories in each other, below the directory `plugins` -/
def deepFiles : FileSystem :=
  { root := .directory [("plugins", chained "directory" 500)], workingDirectory := [] }

theorem find?_deep : deepFiles.find? "plugins" = some (chained "directory" 500) := by
  have hlead : deepFiles.lead "plugins" = .to ["plugins"] := by decide +kernel
  refine find?_eq_some_iff.mpr ⟨by decide, ["plugins"], hlead, ?_⟩
  rw [deepFiles, at?_directory_cons, List.lookup_cons_self, Option.bind_some, at?_nil]

/-- **The paths are in order only if files and subdirectories are mixed in the right way.**  They are sorted
exactly if in no directory a plugin file comes after the name of a subdirectory that has one, with a slash
put after it, and no subdirectory with plugin files is out of order because of the slash. -/
theorem discover_sorted_iff (fs : FileSystem) (directory : String) (node : Node)
    (h : fs.find? directory = some node) (hp : node.Proper) :
    (discover fs directory).Pairwise (· ≤ ·) ↔ fs.SlashOrdered directory node := by
  rw [discover_pairwise_le_iff h hp]
  constructor
  · intro hall
    -- two ways that part in one directory, compared where they part
    have hparts : ∀ above x y, Precedes x y → fs.IsPlugin directory node (above ++ x) →
        fs.IsPlugin directory node (above ++ y) → slashed x < slashed y := fun above x y hxy hx hy =>
      (slashed_append_lt_iff above hxy.ne_nil.1 hxy.ne_nil.2).mp (hall _ _ hx hy (hxy.append above))
    constructor
    · intro above name sub next rest hx hy
      exact (lt_slashed_iff (hx.isName hp) _ _ _).mp (hparts above _ _ .ownFirst hx hy)
    · intro above sub next rest sub' next' rest' hx hy hlt
      exact (slashed_lt_slashed_iff (hx.isName hp) (hy.isName hp) (String.ne_of_lt hlt) _ _ _ _).mp
        (hparts above _ _ (.directories hlt) hx hy)
  · exact fun hs x y hx hy hxy => hs.slashed_lt hp hxy [] hx hy

/-- a file comes before what is in a subdirectory, whose path comes first -/
theorem discover_sorted_iff_nested :
    nestedFiles.find? "plugins" = some nested ∧ nested.Proper
    ∧ ¬ (discover nestedFiles "plugins").Pairwise (· ≤ ·) := by
  refine ⟨find?_nested, nested_proper, ?_⟩
  rw [discover_sorted_iff nestedFiles "plugins" nested find?_nested nested_proper]
  intro hs
  have hlt := hs.files [] "z.py" "a" "b.py" [] (isPlugin_nested rfl rfl rfl (by decide) (by decide))
    (isPlugin_nested rfl rfl rfl (by decide) (by decide))
  exact absurd hlt (by decide)

end Shelf

end MacroFusion
