import Mathlib.Data.List.Basic
import Mathlib.Data.List.Flatten
import ModuleHooks.FileSystem.Tree
import ModuleHooks.Proofs.Path.Tidying

/-!
What paths and listings keep to on a disk. A file or a directory is still found when pieces of its path that
mean nothing are left out, and a directory that can be listed is listed whole, each entry under a name in it.
Both views of a tree of proper names keep to this.
-/
namespace ModuleHooks

open ModuleHooks.Path

namespace FileSystem

/-- Paths and listings as on a disk. A directory need not have a listing. -/
structure IsRegular (fs : FileSystem) : Prop where
  isFile_tidied {p q : Path} (step : p.Tidies q) (found : fs.isFile p = true) : fs.isFile q = true
  isDirectory_tidied {p q : Path} (step : p.Tidies q) (found : fs.isDirectory p = true) :
    fs.isDirectory q = true
  exists_name {directory entry : Path} {entries : List Path} (listed : fs.entries directory = some entries)
    (member : entry ∈ entries) : ∃ name, IsName name ∧ entry = directory.child name
  mem_entries {directory : Path} {entries : List Path} {name : Text}
    (listed : fs.entries directory = some entries) (named : IsName name)
    (found : fs.isDirectory (directory.child name) = true) : directory.child name ∈ entries

variable {fs : FileSystem} {p q : Path}

theorem IsRegular.isFile_tidiedTo (regular : fs.IsRegular) (tidies : p.TidiesTo q) (found : fs.isFile p = true) :
    fs.isFile q = true := by
  induction tidies with
  | refl => exact found
  | tail _ step ih => exact regular.isFile_tidied step ih

theorem IsRegular.isDirectory_tidiedTo (regular : fs.IsRegular) (tidies : p.TidiesTo q)
    (found : fs.isDirectory p = true) : fs.isDirectory q = true := by
  induction tidies with
  | refl => exact found
  | tail _ step ih => exact regular.isDirectory_tidied step ih

end FileSystem

/-! ## Pieces that mean nothing -/

namespace Path

variable {p q : Path} {name : Text}

/-- What is left out is one idle piece. -/
theorem Tidies.pieces (step : Tidies p q) :
    ∃ before idle after, isIdle idle = true ∧ Text.splitAt '/' p.text = before ++ idle :: after ∧
      Text.splitAt '/' q.text = before ++ after := by
  cases step with
  | slash s t =>
    refine ⟨Text.splitAt '/' s, [], Text.splitAt '/' t, rfl, ?_, Text.splitAt_append_mark '/' s t⟩
    exact Text.splitAt_append_mark '/' s ('/' :: t)
  | dot s t =>
    refine ⟨Text.splitAt '/' s, ['.'], Text.splitAt '/' t, rfl, ?_, Text.splitAt_append_mark '/' s t⟩
    exact Text.splitAt_append_mark '/' s ('.' :: '/' :: t)
  | @start c relative t => exact ⟨[], ['.'], Text.splitAt '/' (c :: t), rfl, rfl, rfl⟩

theorem Tidies.sublist (step : Tidies p q) : List.Sublist q.text p.text := by
  cases step with
  | slash s t => exact (List.sublist_cons_self '/' _).append_left s
  | dot s t => exact ((List.sublist_append_right ['.', '/'] t).cons_cons '/').append_left s
  | start relative t => exact List.sublist_append_right ['.', '/'] _

theorem Tidies.ne_nil (step : Tidies p q) : q.text ≠ [] := by
  cases step <;> simp

theorem Tidies.normalNames (step : Tidies p q) : p.normalNames = q.normalNames := by
  obtain ⟨before, idle, after, nothing, whole, left⟩ := step.pieces
  rw [normalNames_eq, normalNames_eq, whole, left, componentsOf_append, componentsOf_append,
    componentsOf_cons_of_idle after nothing]

/-- A name in a directory is behind the names of the directory. -/
theorem normalNames_child_name (directory : Path) (named : IsName name) :
    (directory.child name).normalNames = directory.normalNames ++ [name] := by
  have alone : Text.splitAt '/' name = [name] := Text.splitAt_of_notMem named.unmarked
  have level : ['.', '.'] ∉ Text.splitAt '/' name := by simpa [alone] using Ne.symm named.down
  rw [normalNames_child directory named.isAbsolute level, alone]
  simp [named.named]

end Path

/-! ## Trees -/

namespace FileTree

variable {tree : FileTree} {names : List Text} {name : Text} {p q : Path} {pieces before after : List Text}

/-- Everything in the tree has proper names. -/
def IsProper (tree : FileTree) : Prop := ∀ place ∈ tree.places, ∀ name ∈ place, IsName name

instance (tree : FileTree) : Decidable tree.IsProper :=
  inferInstanceAs (Decidable (∀ place ∈ tree.places, ∀ name ∈ place, IsName name))

theorem mem_childNames :
    name ∈ tree.childNames names ↔ ∃ place ∈ tree.places, ∃ rest, place = names ++ name :: rest := by
  unfold childNames
  rw [List.mem_mergeSort, List.mem_eraseDups, List.mem_filterMap]
  constructor
  · rintro ⟨place, member, found⟩
    obtain ⟨inner, whole, head⟩ := Option.bind_eq_some_iff.1 found
    obtain ⟨rest, rfl⟩ := List.head?_eq_some_iff.1 head
    exact ⟨place, member, rest, (List.append_eq_of_isPrefixOf?_eq_some whole).symm⟩
  · rintro ⟨place, member, rest, whole⟩
    refine ⟨place, member, Option.bind_eq_some_iff.2 ⟨name :: rest, ?_, rfl⟩⟩
    exact List.isPrefixOf?_eq_some_iff_append_eq.2 whole.symm

theorem isName_of_mem_childNames (proper : tree.IsProper) (member : name ∈ tree.childNames names) :
    IsName name := by
  obtain ⟨place, inside, rest, rfl⟩ := mem_childNames.1 member
  exact proper _ inside name (by simp)

/-- A directory is among what the directory above it holds. -/
theorem mem_childNames_of_hasFolder (folder : tree.hasFolder (names ++ [name]) = true) :
    name ∈ tree.childNames names := by
  refine mem_childNames.2 ?_
  unfold hasFolder at folder
  simp only [Bool.or_eq_true, List.isEmpty_iff, List.append_eq_nil_iff, List.cons_ne_nil, and_false,
    false_or, List.contains_iff_mem, List.any_eq_true, Bool.and_eq_true] at folder
  rcases folder with folder | ⟨place, inside, -, leads⟩
  · exact ⟨names ++ [name], List.mem_append_right _ folder, [], rfl⟩
  · obtain ⟨rest, rfl⟩ := List.isPrefixOf_iff_prefix.1 leads
    exact ⟨_, inside, rest, by simp⟩

theorem list?_eq_some {entries : List Path} (listed : tree.list? p = some entries) :
    entries = (tree.childNames p.normalNames).map p.child := by
  unfold list? at listed
  split at listed
  · exact (Option.some.inj listed).symm
  · exact nomatch listed

theorem lexical_isRegular (proper : tree.IsProper) : tree.lexical.IsRegular where
  isFile_tidied {p q} step found := by
    show tree.hasFile q.normalNames = true
    rw [← step.normalNames]
    exact found
  isDirectory_tidied {p q} step found := by
    show tree.hasFolder q.normalNames = true
    rw [← step.normalNames]
    exact found
  exists_name {directory entry entries} listed member := by
    rw [list?_eq_some listed] at member
    obtain ⟨name, inside, rfl⟩ := List.mem_map.1 member
    exact ⟨name, isName_of_mem_childNames proper inside, rfl⟩
  mem_entries {directory entries name} listed named found := by
    rw [list?_eq_some listed]
    refine List.mem_map.2 ⟨name, mem_childNames_of_hasFolder ?_, rfl⟩
    rw [← directory.normalNames_child_name named]
    exact found

/-! ## Walking -/

/-- The first piece is asked in a directory, its name can be kept, and the others follow from there. -/
theorem obstacle_cons_eq_none_iff {piece : Text} :
    tree.obstacle names (piece :: pieces) = none ↔
      tree.hasFolder names.reverse = true ∧ canKeep piece = true ∧
        tree.obstacle (if isIdle piece then names else step names (componentOf piece)) pieces = none := by
  rw [obstacle]
  constructor
  · intro free
    split at free
    case isTrue folder =>
      dsimp only at free
      split at free
      case isTrue keeps => exact ⟨folder, keeps, free⟩
      case isFalse => exact nomatch free
    case isFalse => split at free <;> exact nomatch free
  · rintro ⟨folder, keeps, free⟩
    rw [if_pos folder]
    dsimp only
    rw [if_pos keeps]
    exact free

theorem canKeep_of_obstacle (free : tree.obstacle names pieces = none) :
    ∀ piece ∈ pieces, canKeep piece = true := by
  induction pieces generalizing names with
  | nil => exact fun _ member => nomatch member
  | cons piece rest ih =>
    obtain ⟨-, keeps, further⟩ := obstacle_cons_eq_none_iff.1 free
    exact List.forall_mem_cons.2 ⟨keeps, ih further⟩

/-- Without an idle piece less is in the way. -/
theorem obstacle_tidied {idle : Text} (nothing : isIdle idle = true)
    (free : tree.obstacle names (before ++ idle :: after) = none) :
    tree.obstacle names (before ++ after) = none := by
  induction before generalizing names with
  | nil =>
    obtain ⟨-, -, further⟩ := obstacle_cons_eq_none_iff.1 free
    rwa [if_pos nothing] at further
  | cons piece before ih =>
    obtain ⟨folder, keeps, further⟩ := obstacle_cons_eq_none_iff.1 free
    exact obstacle_cons_eq_none_iff.2 ⟨folder, keeps, ih further⟩

/-- The empty piece in front of the first slash stays at the top. -/
theorem obstacle_top : tree.obstacle [] ([] :: pieces) = none ↔ tree.obstacle [] pieces = none := by
  rw [obstacle_cons_eq_none_iff, if_pos isIdle_nil]
  exact ⟨fun free => free.2.2, fun free => ⟨rfl, by decide, free⟩⟩

/-- Nothing is in the way of a path that is short enough and walked without an obstacle. -/
theorem obstacleTo_eq_none_iff :
    tree.obstacleTo p = none ↔
      '\x00' ∉ p.text ∧ (Utf8.encode p.text).length ≤ pathLimit ∧ p.text ≠ [] ∧
        tree.obstacle [] (Text.splitAt '/' p.text) = none := by
  unfold obstacleTo
  by_cases zero : '\x00' ∈ p.text
  · rw [if_pos (List.contains_iff_mem.2 zero)]
    exact iff_of_false (nofun) fun free => free.1 zero
  rw [if_neg fun contained => zero (List.contains_iff_mem.1 contained)]
  by_cases long : pathLimit < (Utf8.encode p.text).length
  · rw [if_pos long]
    exact iff_of_false nofun fun free => Nat.not_lt.2 free.2.1 long
  rw [if_neg long]
  have short := Nat.not_lt.1 long
  split
  case h_1 empty => exact iff_of_false nofun fun free => free.2.2.1 empty
  case h_2 rest absolute =>
    rw [absolute] at zero short ⊢
    rw [Text.splitAt, if_pos rfl, obstacle_top]
    exact ⟨fun free => ⟨zero, short, List.cons_ne_nil _ _, free⟩, fun free => free.2.2.2⟩
  case h_3 some _ => exact ⟨fun free => ⟨zero, short, some, free⟩, fun free => free.2.2.2⟩

theorem obstacleTo_tidied (step : p.Tidies q) (free : tree.obstacleTo p = none) : tree.obstacleTo q = none := by
  obtain ⟨zero, short, -, walked⟩ := obstacleTo_eq_none_iff.1 free
  obtain ⟨before, idle, after, nothing, whole, left⟩ := step.pieces
  have shorter : (Utf8.encode q.text).length ≤ (Utf8.encode p.text).length :=
    (step.sublist.flatMap Utf8.encodeChar).length_le
  rw [whole] at walked
  refine obstacleTo_eq_none_iff.2 ⟨fun member => zero (step.sublist.subset member),
    Nat.le_trans shorter short, step.ne_nil, ?_⟩
  rw [left]
  exact obstacle_tidied nothing walked

/-- A name that a path without an obstacle ends in can be kept. -/
theorem canKeep_of_obstacleTo_child (named : IsName name) (free : tree.obstacleTo (p.child name) = none) :
    canKeep name = true := by
  obtain ⟨-, -, -, walked⟩ := obstacleTo_eq_none_iff.1 free
  refine canKeep_of_obstacle walked name ?_
  have alone : Text.splitAt '/' name = [name] := Text.splitAt_of_notMem named.unmarked
  rw [child_eq p named]
  obtain ⟨-, nothing⟩ | ⟨front, closed⟩ := slashed_cases p.text
  · rw [nothing, List.nil_append, alone]
    exact List.mem_singleton.2 rfl
  · rw [closed, List.append_assoc, List.singleton_append, Text.splitAt_append_mark, alone]
    simp

theorem kept_of_walking {entries : List Path} (listed : tree.walking.entries p = some entries) :
    ∃ all, tree.list? p = some all ∧
      entries = all.filter fun path => (path.fileName?.map canKeep).getD true := by
  change (if (tree.obstacleTo p).isNone then tree.kept p else none) = some entries at listed
  split at listed
  · obtain ⟨all, whole, rfl⟩ := Option.map_eq_some_iff.1 listed
    exact ⟨all, whole, rfl⟩
  · exact nomatch listed

theorem walking_isRegular (proper : tree.IsProper) : tree.walking.IsRegular where
  isFile_tidied {p q} step found := by
    obtain ⟨free, there⟩ := Bool.and_eq_true_iff.1 found
    refine Bool.and_eq_true_iff.2 ⟨?_, ?_⟩
    · exact Option.isNone_iff_eq_none.2 (obstacleTo_tidied step (Option.isNone_iff_eq_none.1 free))
    · rw [← step.normalNames]
      exact there
  isDirectory_tidied {p q} step found := by
    obtain ⟨free, there⟩ := Bool.and_eq_true_iff.1 found
    refine Bool.and_eq_true_iff.2 ⟨?_, ?_⟩
    · exact Option.isNone_iff_eq_none.2 (obstacleTo_tidied step (Option.isNone_iff_eq_none.1 free))
    · rw [← step.normalNames]
      exact there
  exists_name {directory entry entries} listed member := by
    obtain ⟨all, whole, kept⟩ := kept_of_walking listed
    rw [kept] at member
    rw [list?_eq_some whole] at member
    obtain ⟨name, inside, rfl⟩ := List.mem_map.1 (List.mem_filter.1 member).1
    exact ⟨name, isName_of_mem_childNames proper inside, rfl⟩
  mem_entries {directory entries name} listed named found := by
    obtain ⟨free, there⟩ := Bool.and_eq_true_iff.1 found
    obtain ⟨all, whole, kept⟩ := kept_of_walking listed
    rw [kept, list?_eq_some whole]
    refine List.mem_filter.2 ⟨List.mem_map.2 ⟨name, mem_childNames_of_hasFolder ?_, rfl⟩, ?_⟩
    · rw [← directory.normalNames_child_name named]
      exact there
    · rw [fileName?_child directory named]
      exact canKeep_of_obstacleTo_child named (Option.isNone_iff_eq_none.1 free)

end FileTree
end ModuleHooks
