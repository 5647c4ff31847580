import Mathlib.Data.List.Induction
import ModuleHooks.Proofs.FileSystem.Regular
import ModuleHooks.Proofs.Path.Below

/-!
Directories that files lie in. What is found at an absolute path is found in a directory, which lists its name
once, and a file has nothing in it; so every file is reached from the root by going down through listings, and
never by the dots of a directory. Both views of a tree of proper names keep to this if no file stands in for a
directory.
-/
namespace ModuleHooks

open ModuleHooks.Path

namespace FileSystem

/-- The names that a directory lists. -/
def namesIn (fs : FileSystem) (directory : Path) : List Text := (fs.listing directory).filterMap fileName?

/-- Every absolute path goes down through directories that list what is in them. -/
structure IsLayered (fs : FileSystem) : Prop where
  isDirectory_above {names : List Text} {name : Text} (proper : ∀ n ∈ names ++ [name], IsName n)
    (found : fs.hasPath (ofNames true (names ++ [name])) = true) : fs.isDirectory (ofNames true names) = true
  mem_namesIn {names : List Text} {name : Text} (proper : ∀ n ∈ names ++ [name], IsName n)
    (found : fs.hasPath (ofNames true (names ++ [name])) = true) : name ∈ fs.namesIn (ofNames true names)
  nodup_namesIn {names : List Text} (proper : ∀ n ∈ names, IsName n) : (fs.namesIn (ofNames true names)).Nodup
  isDirectory_of_isFile {p : Path} (found : fs.isFile p = true) : fs.isDirectory p = false
  isFile_dots {p : Path} {t : Text} (dots : IsDots t) (found : fs.isDirectory p = true) :
    fs.isFile (p.child t) = false

/-- The paths of files are shorter than the depth. -/
theorem length_lt_depth {fs : FileSystem} {names : List Text} (proper : ∀ n ∈ names, IsName n)
    (file : fs.isFile (ofNames true names) = true) : names.length < fs.depth := by
  have member := fs.normalize_mem _ file
  rw [normalize_ofNames proper] at member
  have bound (paths : List Path) (least : Nat) :
      least ≤ paths.foldl (fun n p => max n (p.components.length + 1)) least ∧
        ∀ p ∈ paths, p.components.length < paths.foldl (fun n p => max n (p.components.length + 1)) least := by
    induction paths generalizing least with
    | nil => exact ⟨Nat.le_refl _, nofun⟩
    | cons p paths ih =>
      obtain ⟨above, others⟩ := ih (max least (p.components.length + 1))
      rw [List.foldl_cons]
      exact ⟨by omega, List.forall_mem_cons.2 ⟨by omega, others⟩⟩
  have shorter := (bound fs.files 1).2 _ member
  rw [components_ofNames proper, List.length_append, List.length_map] at shorter
  exact Nat.lt_of_le_of_lt (Nat.le_add_left _ _) shorter

/-- What is found behind further names is found in a directory. -/
theorem IsLayered.isDirectory_of_append {fs : FileSystem} (layered : fs.IsLayered) {names more : List Text}
    (proper : ∀ n ∈ names ++ more, IsName n) (some : more ≠ [])
    (found : fs.hasPath (ofNames true (names ++ more)) = true) : fs.isDirectory (ofNames true names) = true := by
  induction more using List.reverseRecOn with
  | nil => exact absurd rfl some
  | append_singleton init last ih =>
    rw [← List.append_assoc] at proper found
    have above := layered.isDirectory_above proper found
    by_cases only : init = []
    · rwa [only, List.append_nil] at above
    · have found : fs.hasPath (ofNames true (names ++ init)) = true := Bool.or_eq_true_iff.2 (.inr above)
      exact ih (fun n member => proper n (List.mem_append_left _ member)) only found

/-- The first of these names is found itself. -/
theorem IsLayered.hasPath_of_append {fs : FileSystem} (layered : fs.IsLayered) {names more : List Text}
    {name : Text} (proper : ∀ n ∈ names ++ name :: more, IsName n)
    (found : fs.hasPath (ofNames true (names ++ name :: more)) = true) :
    fs.hasPath (ofNames true (names ++ [name])) = true := by
  cases more with
  | nil => exact found
  | cons next more =>
    rw [List.append_cons] at proper found
    exact Bool.or_eq_true_iff.2 (.inr (layered.isDirectory_of_append proper (List.cons_ne_nil next more) found))

end FileSystem

namespace FileTree

variable {tree : FileTree} {names : List Text} {name : Text}

/-- No file has anything in it. -/
def HoldsApart (tree : FileTree) : Prop := ∀ file ∈ tree.files, tree.hasFolder file.1 = false

instance (tree : FileTree) : Decidable tree.HoldsApart :=
  inferInstanceAs (Decidable (∀ file ∈ tree.files, tree.hasFolder file.1 = false))

theorem hasFolder_of_hasFile (apart : tree.HoldsApart) (file : tree.hasFile names = true) :
    tree.hasFolder names = false := by
  obtain ⟨found, member, same⟩ := List.any_eq_true.1 file
  rw [← beq_iff_eq.1 same]
  exact apart found member

/-! ## What a directory holds -/

theorem mem_childNames_of_hasFile (file : tree.hasFile (names ++ [name]) = true) :
    name ∈ tree.childNames names := by
  obtain ⟨found, member, same⟩ := List.any_eq_true.1 file
  exact mem_childNames.2 ⟨found.1, List.mem_append_left _ (List.mem_map_of_mem member), [], beq_iff_eq.1 same⟩

theorem hasFolder_of_mem_childNames (member : name ∈ tree.childNames names) : tree.hasFolder names = true := by
  obtain ⟨place, inside, rest, rfl⟩ := mem_childNames.1 member
  unfold hasFolder
  rw [Bool.or_eq_true]
  refine .inr (List.any_eq_true.2 ⟨_, inside, ?_⟩)
  simp

theorem hasFolder_dropLast (folder : tree.hasFolder names = true) : tree.hasFolder names.dropLast = true := by
  obtain rfl | ⟨init, last, rfl⟩ := List.eq_nil_or_concat names
  · exact folder
  · rw [List.concat_eq_append] at folder ⊢
    rw [List.dropLast_concat]
    exact hasFolder_of_mem_childNames (mem_childNames_of_hasFolder folder)

/-- The dots of a directory are directories. -/
theorem hasFile_child_dots (apart : tree.HoldsApart) {p : Path} {t : Text} (dots : IsDots t)
    (folder : tree.hasFolder p.normalNames = true) : tree.hasFile (p.child t).normalNames = false := by
  refine Bool.eq_false_iff.2 fun file => ?_
  have none := hasFolder_of_hasFile apart file
  obtain ⟨here, above⟩ := normalNames_child_dots p
  rcases dots with rfl | rfl
  · rw [here, folder] at none
    exact nomatch none
  · rw [above, hasFolder_dropLast folder] at none
    exact nomatch none

private theorem nodup_eraseDups : (l : List Text) → l.eraseDups.Nodup
  | [] => List.nodup_nil
  | a :: l => by
    rw [List.eraseDups_cons, List.nodup_cons]
    exact ⟨by simp [List.mem_eraseDups], nodup_eraseDups (l.filter fun b => !b == a)⟩
termination_by l => l.length
decreasing_by exact Nat.lt_succ_of_le (List.length_filter_le _ _)

theorem nodup_childNames (tree : FileTree) (names : List Text) : (tree.childNames names).Nodup :=
  (List.mergeSort_perm ..).nodup_iff.2 (nodup_eraseDups _)

/-! ## The lexical view -/

/-- The names of the entries of a directory are those that it holds. -/
theorem filterMap_fileName?_child (directory : Path) (proper : ∀ name ∈ names, IsName name) :
    (names.map directory.child).filterMap fileName? = names := by
  induction names with
  | nil => rfl
  | cons name names ih =>
    obtain ⟨first, others⟩ := List.forall_mem_cons.1 proper
    rw [List.map_cons, List.filterMap_cons_some (fileName?_child directory first), ih others]

theorem namesIn_lexical (proper : tree.IsProper) (p : Path) :
    tree.lexical.namesIn p = if tree.hasFolder p.normalNames then tree.childNames p.normalNames else [] := by
  show ((tree.list? p).getD []).filterMap fileName? = _
  unfold list?
  split
  · exact filterMap_fileName?_child p fun _ => isName_of_mem_childNames proper
  · rfl

theorem mem_childNames_of_hasPath (found : tree.lexical.hasPath (ofNames true (names ++ [name])) = true)
    (proper : ∀ n ∈ names ++ [name], IsName n) : name ∈ tree.childNames names := by
  change (tree.hasFile (ofNames true _).normalNames ||
    tree.hasFolder (ofNames true _).normalNames) = true at found
  rw [normalNames_ofNames proper, Bool.or_eq_true] at found
  exact found.elim mem_childNames_of_hasFile mem_childNames_of_hasFolder

theorem lexical_isLayered (proper : tree.IsProper) (apart : tree.HoldsApart) : tree.lexical.IsLayered where
  isDirectory_above {names name} named found := by
    show tree.hasFolder (ofNames true names).normalNames = true
    rw [normalNames_ofNames fun n member => named n (List.mem_append_left _ member)]
    exact hasFolder_of_mem_childNames (mem_childNames_of_hasPath found named)
  mem_namesIn {names name} named found := by
    have member := mem_childNames_of_hasPath found named
    rw [namesIn_lexical proper, normalNames_ofNames fun n inside => named n (List.mem_append_left _ inside),
      if_pos (hasFolder_of_mem_childNames member)]
    exact member
  nodup_namesIn {names} _ := by
    rw [namesIn_lexical proper]
    split
    · exact nodup_childNames tree _
    · exact List.nodup_nil
  isDirectory_of_isFile found := hasFolder_of_hasFile apart found
  isFile_dots dots found := hasFile_child_dots apart dots found

/-! ## The walking view -/

/-- What is in the way of the first pieces is in the way of all. -/
theorem obstacle_append {pieces more : List Text} (free : tree.obstacle names (pieces ++ more) = none) :
    tree.obstacle names pieces = none := by
  induction pieces generalizing names with
  | nil => rfl
  | cons piece pieces ih =>
    obtain ⟨folder, keeps, further⟩ := obstacle_cons_eq_none_iff.1 free
    exact obstacle_cons_eq_none_iff.2 ⟨folder, keeps, ih further⟩

/-- Above a path without an obstacle there is none. -/
theorem obstacleTo_above (proper : ∀ n ∈ names ++ [name], IsName n)
    (free : tree.obstacleTo (ofNames true (names ++ [name])) = none) :
    tree.obstacleTo (ofNames true names) = none := by
  obtain ⟨zero, short, -, walked⟩ := obstacleTo_eq_none_iff.1 free
  have shorter : List.Sublist (ofNames true names).text (ofNames true (names ++ [name])).text := by
    cases names with
    | nil => exact (List.nil_sublist _).cons_cons '/'
    | cons first rest =>
      refine List.Sublist.cons_cons '/' ?_
      rw [Text.joinWith_concat '/' name (List.cons_ne_nil first rest)]
      exact List.sublist_append_left _ _
  refine obstacleTo_eq_none_iff.2 ⟨fun member => zero (shorter.subset member),
    Nat.le_trans (shorter.flatMap Utf8.encodeChar).length_le short, List.cons_ne_nil _ _, ?_⟩
  cases names with
  | nil => exact obstacle_top.2 (obstacle_top.2 rfl)
  | cons first rest =>
    have unmarked : ∀ n ∈ first :: rest ++ [name], '/' ∉ n := fun n member => (proper n member).unmarked
    have opened (ns : List Text) : Text.splitAt '/' (ofNames true ns).text =
        [] :: Text.splitAt '/' (Text.joinWith '/' ns) := rfl
    rw [opened, obstacle_top] at walked ⊢
    rw [Text.splitAt_joinWith (by simp) unmarked] at walked
    rw [Text.splitAt_joinWith (by simp) fun n member => unmarked n (List.mem_append_left _ member)]
    exact obstacle_append walked

theorem namesIn_walking (proper : tree.IsProper) (p : Path) :
    tree.walking.namesIn p =
      if (tree.obstacleTo p).isNone then (tree.lexical.namesIn p).filter canKeep else [] := by
  show ((if (tree.obstacleTo p).isNone then tree.kept p else none).getD []).filterMap fileName? = _
  split
  case isFalse => rfl
  case isTrue =>
    rw [namesIn_lexical proper, kept, list?]
    split
    case isFalse => rfl
    case isTrue =>
      have named : ∀ name ∈ tree.childNames p.normalNames, IsName name := fun _ =>
        isName_of_mem_childNames proper
      have kept : ((tree.childNames p.normalNames).map p.child).filter
            (fun path => (path.fileName?.map canKeep).getD true) =
          ((tree.childNames p.normalNames).filter canKeep).map p.child := by
        rw [List.filter_map]
        refine congrArg (List.map p.child) (List.filter_congr fun name member => ?_)
        rw [Function.comp, fileName?_child p (named name member)]
        rfl
      show (List.filter _ _).filterMap fileName? = _
      rw [kept]
      exact filterMap_fileName?_child p fun name member => named name (List.mem_of_mem_filter member)

theorem lexical_hasPath_of_walking {p : Path} (found : tree.walking.hasPath p = true) :
    tree.obstacleTo p = none ∧ tree.lexical.hasPath p = true := by
  change ((tree.obstacleTo p).isNone && tree.hasFile p.normalNames ||
    (tree.obstacleTo p).isNone && tree.hasFolder p.normalNames) = true at found
  rw [← Bool.and_or_distrib_left, Bool.and_eq_true_iff, Option.isNone_iff_eq_none] at found
  exact found

theorem walking_isLayered (proper : tree.IsProper) (apart : tree.HoldsApart) : tree.walking.IsLayered where
  isDirectory_above {names name} named found := by
    obtain ⟨free, there⟩ := lexical_hasPath_of_walking found
    refine Bool.and_eq_true_iff.2 ⟨Option.isNone_iff_eq_none.2 (obstacleTo_above named free), ?_⟩
    exact (lexical_isLayered proper apart).isDirectory_above named there
  mem_namesIn {names name} named found := by
    obtain ⟨free, there⟩ := lexical_hasPath_of_walking found
    rw [namesIn_walking proper, if_pos (Option.isNone_iff_eq_none.2 (obstacleTo_above named free))]
    refine List.mem_filter.2 ⟨(lexical_isLayered proper apart).mem_namesIn named there, ?_⟩
    rw [← child_ofNames (fun n member => named n (List.mem_append_left _ member)) (named name (by simp))] at free
    exact canKeep_of_obstacleTo_child (named name (by simp)) free
  nodup_namesIn {names} named := by
    rw [namesIn_walking proper]
    split
    · exact ((lexical_isLayered proper apart).nodup_namesIn named).filter _
    · exact List.nodup_nil
  isDirectory_of_isFile {p} found := by
    have file : tree.hasFile p.normalNames = true := (Bool.and_eq_true_iff.1 found).2
    exact Bool.and_eq_false_iff.2 (.inr (hasFolder_of_hasFile apart file))
  isFile_dots dots found :=
    Bool.and_eq_false_iff.2 (.inr (hasFile_child_dots apart dots (Bool.and_eq_true_iff.1 found).2))

end FileTree
end ModuleHooks
