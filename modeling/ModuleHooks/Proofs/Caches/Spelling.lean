import ModuleHooks.Package.Manifest
import ModuleHooks.Proofs.FileSystem.Regular
import ModuleHooks.Proofs.Path.Relative

/-!
Directories by spelling. Paths with the same components are the same path, but a disk refuses a text that is too
long, whatever it means; so the manifest of a directory may be found under one spelling and be out of reach under
another. A spelling `Reaches` what any other leads to if files are read by the normal form of their paths
(`lexical_reaches`), and on a disk as long as it is short enough (`walking_reaches`). With slashes put in front of
it, it no longer is (`read_padded`).
-/
namespace ModuleHooks

open Text ModuleHooks.Path

/-! ## Pieces that mean something -/

namespace Path

variable {p q : Path}

theorem componentOf_injective : Function.Injective componentOf := by
  intro piece other same
  unfold componentOf at same
  split at same <;> split at same <;> simp_all

/-- Behind the root or the starting directory a path has the components of its pieces. -/
theorem filter_components (p : Path) :
    p.components.filter (fun c => c ≠ .root ∧ c ≠ .here) = componentsOf (splitAt '/' p.text) := by
  obtain ⟨front, fronts, whole⟩ := exists_leading p
  have nothing : front.filter (fun c => c ≠ .root ∧ c ≠ .here) = [] := by
    rcases fronts with rfl | rfl | rfl <;> rfl
  have all : ∀ c ∈ componentsOf (splitAt '/' p.text), c ≠ .root ∧ c ≠ .here := by
    intro c member
    obtain ⟨piece, -, rfl⟩ := List.mem_map.1 member
    unfold componentOf
    split <;> simp
  rw [whole, List.filter_append, nothing, List.nil_append, List.filter_eq_self.2 (by simpa using all)]

/-- Spellings of one path have the same pieces, but for those that mean nothing. -/
theorem filter_splitAt_congr (same : p.components = q.components) :
    (splitAt '/' p.text).filter (!isIdle ·) = (splitAt '/' q.text).filter (!isIdle ·) := by
  have names : componentsOf (splitAt '/' p.text) = componentsOf (splitAt '/' q.text) := by
    rw [← filter_components, same, filter_components]
  exact List.map_injective_iff.2 componentOf_injective names

/-- Other characters than slashes and dots are the same in all spellings of a path. -/
theorem mem_text_congr {c : Char} (slash : c ≠ '/') (dot : c ≠ '.') (same : p.components = q.components)
    (member : c ∈ p.text) : c ∈ q.text := by
  rw [← joinWith_splitAt '/' p.text] at member
  obtain divides | ⟨piece, among, inside⟩ := mem_joinWith member
  · exact absurd divides slash
  · have meant : isIdle piece = false := by
      refine Bool.eq_false_iff.2 fun idle => ?_
      obtain rfl | rfl : piece = [] ∨ piece = ['.'] := by simpa [isIdle] using idle
      · exact absurd inside List.not_mem_nil
      · exact dot (List.mem_singleton.1 inside)
    have shared : piece ∈ (splitAt '/' q.text).filter (!isIdle ·) := by
      rw [← filter_splitAt_congr same]
      exact List.mem_filter.2 ⟨among, by simp [meant]⟩
    exact subset_of_mem_splitAt (List.mem_of_mem_filter shared) inside

end Path

/-! ## Manifests by spelling -/

namespace Manifest

variable {fs : FileSystem} {directory other p q : Path}

theorem components_pathIn (directory : Path) :
    (pathIn directory).components = directory.components ++ [.name fileName] :=
  components_child directory (by decide) (by decide) (by decide)

/-- Two spellings of a manifest's path are two of its directory's. -/
theorem components_pathIn_inj :
    (pathIn directory).components = (pathIn other).components ↔ directory.components = other.components := by
  rw [components_pathIn, components_pathIn]
  exact List.append_left_inj _

theorem normalNames_pathIn_congr (same : directory.components = other.components) :
    (pathIn directory).normalNames = (pathIn other).normalNames := by
  rw [normalNames, normalNames, components_pathIn_inj.2 same]

/-- The last piece of a manifest's path is its name. -/
theorem exists_splitAt_pathIn (directory : Path) :
    ∃ pieces, splitAt '/' (pathIn directory).text = pieces ++ [fileName] := by
  have alone : splitAt '/' fileName = [fileName] := splitAt_of_notMem (by decide)
  rw [pathIn, child_eq directory (show IsName fileName by decide)]
  obtain ⟨-, nothing⟩ | ⟨front, closed⟩ := slashed_cases directory.text
  · exact ⟨[], by rw [nothing, List.nil_append, alone, List.nil_append]⟩
  · refine ⟨splitAt '/' front, ?_⟩
    rw [closed, List.append_assoc, List.singleton_append, splitAt_append_mark, alone]

theorem text_pathIn_ne_nil (directory : Path) : (pathIn directory).text ≠ [] := by
  intro empty
  obtain ⟨pieces, whole⟩ := exists_splitAt_pathIn directory
  have last := congrArg List.getLast? whole
  rw [empty, List.getLast?_concat] at last
  exact absurd last (by decide)

/-- Where the same text is read the same manifest is found. Only a failure tells the paths apart. -/
theorem read_eq_ok (same : fs.readText p = fs.readText q) {manifest : Option Manifest}
    (read : Manifest.read fs p = .ok manifest) : Manifest.read fs q = .ok manifest := by
  unfold Manifest.read FileSystem.readOptional at read ⊢
  rw [← same]
  cases text : fs.readText p with
  | error failure =>
    rw [text] at read
    cases failure with
    | missing => exact read
    | _ => exact nomatch read
  | ok source =>
    rw [text] at read
    simp only [parse] at read ⊢
    cases parsed : Json.parse? source with
    | none =>
      rw [parsed] at read
      exact nomatch read
    | some value =>
      rw [parsed] at read
      exact read

/-- A manifest that cannot be read is not found to be missing. -/
theorem read_unreadable {failure : ReadFailure} (failed : fs.readText p = .error failure)
    (other : failure ≠ .missing) : Manifest.read fs p = .error (.unreadable p (.failed failure)) := by
  unfold Manifest.read FileSystem.readOptional
  rw [failed]
  cases failure <;> first | rfl | exact absurd rfl other

end Manifest

/-- What the manifest of a directory is found to be under any spelling of it, it is found to be under this
one. -/
def FileSystem.Reaches (fs : FileSystem) (directory : Path) : Prop :=
  ∀ (other : Path) (manifest : Option Manifest), other.components = directory.components →
    Manifest.read fs (Manifest.pathIn other) = .ok manifest →
    Manifest.read fs (Manifest.pathIn directory) = .ok manifest

namespace FileTree

variable {tree : FileTree} {names pieces : List Text} {piece last : Text} {p q directory : Path}

/-- A tree that is read by normal forms is reached by every spelling. -/
theorem lexical_reaches (tree : FileTree) (directory : Path) : tree.lexical.Reaches directory := by
  intro other manifest same read
  exact Manifest.read_eq_ok (congrArg tree.read (Manifest.normalNames_pathIn_congr same)) read

/-! ## Walking by any spelling -/

theorem canKeep_of_isIdle (idle : isIdle piece = true) : canKeep piece = true := by
  obtain rfl | rfl : piece = [] ∨ piece = ['.'] := by simpa [isIdle] using idle
  · decide
  · decide

theorem obstacle_of_not_hasFolder (blocked : tree.hasFolder names.reverse = false) (piece : Text)
    (pieces : List Text) :
    tree.obstacle names (piece :: pieces) =
      if tree.hasFile names.reverse || tree.isBelowFile names.reverse then some .notADirectory
      else some .missing := by
  rw [obstacle, if_neg (by simp [blocked])]

/-- In front of a name the pieces that mean nothing are no obstacle of their own. -/
theorem obstacle_filter (named : isIdle last = false) :
    tree.obstacle names (pieces ++ [last]) = tree.obstacle names ((pieces ++ [last]).filter (!isIdle ·)) := by
  have kept (before : List Text) :
      (before ++ [last]).filter (!isIdle ·) = before.filter (!isIdle ·) ++ [last] := by
    simp [named]
  induction pieces generalizing names with
  | nil => rw [kept, List.filter_nil]
  | cons piece pieces ih =>
    rw [kept] at ih
    rw [kept, List.cons_append]
    cases idle : isIdle piece with
    | false =>
      rw [List.filter_cons_of_pos (by simp [idle]), List.cons_append]
      simp only [obstacle, ih]
    | true =>
      rw [List.filter_cons_of_neg (by simp [idle])]
      cases folder : tree.hasFolder names.reverse with
      | true => rw [obstacle, if_pos folder, if_pos idle, if_pos (canKeep_of_isIdle idle), ih]
      | false =>
        obtain ⟨first, rest, whole⟩ := List.exists_cons_of_ne_nil
          (List.append_ne_nil_of_right_ne_nil (pieces.filter (!isIdle ·)) (List.cons_ne_nil last []))
        rw [whole, obstacle_of_not_hasFolder folder, obstacle_of_not_hasFolder folder]

/-- A text that a disk accepts is walked piece by piece. -/
theorem obstacleTo_eq (legible : '\x00' ∉ p.text) (short : (Utf8.encode p.text).length ≤ pathLimit)
    (some : p.text ≠ []) : tree.obstacleTo p = tree.obstacle [] (splitAt '/' p.text) := by
  unfold obstacleTo
  rw [if_neg fun contained => legible (List.contains_iff_mem.1 contained), if_neg (Nat.not_lt.2 short)]
  split
  case h_1 empty => exact absurd empty some
  case h_2 rest absolute =>
    have opened : splitAt '/' ('/' :: rest) = [] :: splitAt '/' rest := rfl
    rw [absolute, opened]
    rfl
  case h_3 => rfl

theorem readText_of_obstacle {failure : ReadFailure} (blocked : tree.obstacleTo p = some failure) :
    tree.walking.readText p = .error failure := by
  simp only [walking, blocked]

/-- By the same way to the same place the same is read. -/
theorem readText_congr (way : tree.obstacleTo p = tree.obstacleTo q) (place : p.normalNames = q.normalNames) :
    tree.walking.readText p = tree.walking.readText q := by
  simp only [walking, way, place]

/-- What is read has a text that a disk accepts. -/
theorem accepted_of_read {manifest : Option Manifest} (read : Manifest.read tree.walking p = .ok manifest) :
    '\x00' ∉ p.text ∧ (Utf8.encode p.text).length ≤ pathLimit := by
  have refused (failure : ReadFailure) (blocked : tree.obstacleTo p = some failure)
      (other : failure ≠ .missing) : False :=
    nomatch (Manifest.read_unreadable (readText_of_obstacle blocked) other).symm.trans read
  have legible : '\x00' ∉ p.text := fun zero =>
    refused .impossible (if_pos (List.contains_iff_mem.2 zero)) nofun
  refine ⟨legible, Nat.not_lt.1 fun long => refused .tooLong ?_ nofun⟩
  rw [obstacleTo, if_neg fun contained => legible (List.contains_iff_mem.1 contained), if_pos long]

/-- The way to a manifest goes through the pieces that mean something. -/
theorem obstacleTo_pathIn (legible : '\x00' ∉ (Manifest.pathIn directory).text)
    (short : (Utf8.encode (Manifest.pathIn directory).text).length ≤ pathLimit) :
    tree.obstacleTo (Manifest.pathIn directory) =
      tree.obstacle [] ((splitAt '/' (Manifest.pathIn directory).text).filter (!isIdle ·)) := by
  obtain ⟨before, whole⟩ := Manifest.exists_splitAt_pathIn directory
  rw [obstacleTo_eq legible short (Manifest.text_pathIn_ne_nil directory), whole, obstacle_filter (by decide)]

/-- A spelling that is short enough reaches what any other leads to. -/
theorem walking_reaches (tree : FileTree)
    (short : (Utf8.encode (Manifest.pathIn directory).text).length ≤ pathLimit) :
    tree.walking.Reaches directory := by
  intro other manifest same read
  have paths : (Manifest.pathIn other).components = (Manifest.pathIn directory).components :=
    Manifest.components_pathIn_inj.2 same
  obtain ⟨legible, shortToo⟩ := accepted_of_read read
  have legibleToo : '\x00' ∉ (Manifest.pathIn directory).text :=
    fun zero => legible (mem_text_congr (by decide) (by decide) paths.symm zero)
  have way : tree.obstacleTo (Manifest.pathIn other) = tree.obstacleTo (Manifest.pathIn directory) := by
    rw [obstacleTo_pathIn legible shortToo, obstacleTo_pathIn legibleToo short, filter_splitAt_congr paths]
  exact Manifest.read_eq_ok (readText_congr way (Manifest.normalNames_pathIn_congr same)) read

end FileTree

/-! ## Slashes in front -/

/-- So many slashes more in front of a path. -/
def Path.padded (n : Nat) (p : Path) : Path := ⟨List.replicate n '/' ++ p.text⟩

namespace Path

variable {n : Nat} {body last above : Text} {init : List Text} {p : Path}

theorem padded_cons (n : Nat) (body : Text) :
    padded n ⟨'/' :: body⟩ = ⟨'/' :: (List.replicate n '/' ++ body)⟩ := by
  rw [padded, List.append_cons, ← List.replicate_succ', List.replicate_succ, List.cons_append]

theorem splitAt_slashes (n : Nat) (body : Text) :
    splitAt '/' (List.replicate n '/' ++ body) = List.replicate n [] ++ splitAt '/' body := by
  induction n with
  | zero => rfl
  | succ n ih => rw [List.replicate_succ, List.cons_append, splitAt, if_pos rfl, ih]; rfl

theorem joinWith_slashes (n : Nat) {pieces : List Text} (some : pieces ≠ []) :
    joinWith '/' (List.replicate n [] ++ pieces) = List.replicate n '/' ++ joinWith '/' pieces := by
  induction n with
  | zero => rfl
  | succ n ih =>
    rw [List.replicate_succ, List.cons_append, joinWith_cons '/' [] (by simp [some]), ih]
    rfl

theorem trimIdle_append (front : List Text) {pieces : List Text} (some : trimIdle pieces ≠ []) :
    trimIdle (front ++ pieces) = front ++ trimIdle pieces := by
  have meant : (pieces.reverse.dropWhile isIdle).isEmpty = false := by
    rw [List.isEmpty_eq_false_iff]
    exact fun nothing => some (by rw [trimIdle, nothing, List.reverse_nil])
  rw [trimIdle, List.reverse_append, List.dropWhile_append, meant, if_neg Bool.false_ne_true,
    List.reverse_append, List.reverse_reverse, trimIdle]

theorem isAbsolute_padded (n : Nat) (absolute : p.isAbsolute = true) : (p.padded n).isAbsolute = true := by
  cases n with
  | zero => exact absolute
  | succ n => rfl

/-- To an absolute path slashes in front mean nothing. -/
theorem components_padded (n : Nat) (absolute : p.isAbsolute = true) :
    (p.padded n).components = p.components := by
  have idle : componentsOf (List.replicate n []) = [] := by
    refine componentsOf_eq_nil fun piece member => ?_
    rw [List.eq_of_mem_replicate member]
    rfl
  rw [components_of_isAbsolute (isAbsolute_padded n absolute), components_of_isAbsolute absolute, padded,
    splitAt_slashes, componentsOf_append, idle, List.nil_append]

/-- The slashes stay in front of the path above, if that has a name. -/
theorem parent?_padded (n : Nat) (pieces : trimIdle (splitAt '/' body) = init ++ [above, last])
    (named : isIdle above = false) :
    (padded n ⟨'/' :: body⟩).parent? = some (padded n ⟨'/' :: joinWith '/' (init ++ [above])⟩) := by
  have kept : trimIdle (init ++ [above]) = init ++ [above] := by simp [trimIdle, named]
  have cut : trimIdle (splitAt '/' (List.replicate n '/' ++ body)) =
      (List.replicate n [] ++ (init ++ [above])) ++ [last] := by
    rw [splitAt_slashes, trimIdle_append _ (by simp [pieces]), pieces]
    simp
  rw [padded_cons, padded_cons, parent?_of_trimIdle (p := ⟨'/' :: (List.replicate n '/' ++ body)⟩) cut,
    trimIdle_append _ (by simp [kept]), kept, joinWith_slashes n (by simp)]
  rfl

end Path

theorem Manifest.pathIn_padded (n : Nat) {directory : Path} (given : directory.text ≠ []) :
    pathIn (directory.padded n) = (pathIn directory).padded n := by
  have named : IsName fileName := by decide
  rw [pathIn, pathIn, child_eq _ named, child_eq _ named, padded, padded, slashed_append _ given,
    List.append_assoc]

theorem Utf8.length_le_encode (s : Text) : s.length ≤ (encode s).length := by
  induction s with
  | nil => exact Nat.le_refl _
  | cons c s ih =>
    have first : 0 < (encodeChar c).length := by
      simp only [encodeChar]
      split <;> [skip; split <;> [skip; split]] <;> simp
    have whole : (encode (c :: s)).length = (encodeChar c).length + (encode s).length := by
      simp [encode]
    rw [whole, List.length_cons]
    omega

/-- Behind as many slashes as fill a path no manifest is within reach. -/
theorem FileTree.read_padded (tree : FileTree) {n : Nat} {directory : Path} (long : pathLimit ≤ n)
    (given : directory.text ≠ []) (legible : '\x00' ∉ (Manifest.pathIn directory).text) :
    Manifest.read tree.walking (Manifest.pathIn (directory.padded n)) =
      .error (.unreadable (Manifest.pathIn (directory.padded n)) (.failed .tooLong)) := by
  rw [Manifest.pathIn_padded n given]
  have unmarked : '\x00' ∉ ((Manifest.pathIn directory).padded n).text := by
    rw [padded, List.mem_append, not_or]
    exact ⟨fun slash => absurd (List.eq_of_mem_replicate slash) (by decide), legible⟩
  have fills : pathLimit < (Utf8.encode ((Manifest.pathIn directory).padded n).text).length := by
    have text := List.length_pos_iff.2 (Manifest.text_pathIn_ne_nil directory)
    refine Nat.lt_of_lt_of_le ?_ (Utf8.length_le_encode _)
    rw [padded, List.length_append, List.length_replicate]
    omega
  have blocked : tree.obstacleTo ((Manifest.pathIn directory).padded n) = some .tooLong := by
    rw [obstacleTo, if_neg fun contained => unmarked (List.contains_iff_mem.1 contained), if_pos fills]
  exact Manifest.read_unreadable (readText_of_obstacle blocked) nofun

end ModuleHooks
