import Mathlib.Data.List.Infix
import ModuleHooks.Glob.Listing
import ModuleHooks.Proofs.FileSystem.Layered

/-!
What holds of all paths that a pattern leads to. A path leads on by the text of a component, by the names in
its directory and by the names for the directory itself and the one above it; so what is kept by each of these
steps is kept by every visit, and holds of what the last step reaches (`Keeps.visit`). What also holds of the
place where the pattern starts therefore tells about every path that it lists (`Keeps.mem_files?`).
-/
namespace ModuleHooks.Glob

open ModuleHooks.Path

/-- The first property of paths is kept by every step from a path along components of a kind, and the second
holds of what the steps reach. -/
structure Keeps (fs : FileSystem) (P Q : Path → Prop) (C : List (List GlobToken) → Prop) : Prop where
  behind {component : List GlobToken} {components : List (List GlobToken)} (kind : C (component :: components)) :
    C components
  literal {directory : Path} {component : List GlobToken} {components : List (List GlobToken)} {name : Text}
    (kind : C (component :: components)) (here : P directory) (spelled : literal? component = some name) :
    P (nameIn directory name)
  listed {directory : Path} {name : Text} (here : P directory) (member : name ∈ fs.namesIn directory) :
    P (nameIn directory name)
  dots {directory : Path} {component next : List GlobToken} {components : List (List GlobToken)} {name : Text}
    (kind : C (component :: next :: components)) (here : P directory) (member : name ∈ dotNames component) :
    P (directory.child name)
  lastDots {directory : Path} {component : List GlobToken} {name : Text} (here : P directory)
    (folder : fs.isDirectory directory = true) (member : name ∈ dotNames component) : Q (directory.child name)
  reached {path : Path} (here : P path) : Q path

/-- The visit is of a path that the properties hold of, along components of the kind. -/
def Visit.Holds (P Q : Path → Prop) (C : List (List GlobToken) → Prop) : Visit → Prop
  | .found path => Q path
  | .pending path components => P path ∧ C components

/-- What a path leads to that a component has led to: itself if no component is left. -/
def follow (fs : FileSystem) (components : List (List GlobToken)) (path : Path) : List Visit :=
  if components.isEmpty then [.found path] else expand fs components path

variable {fs : FileSystem} {P Q : Path → Prop} {C : List (List GlobToken) → Prop} {path : Path}
  {components : List (List GlobToken)} {component : List GlobToken}

/-- A component without wildcards is followed without looking around. -/
theorem expand_literal {name : Text} (spelled : literal? component = some name)
    (components : List (List GlobToken)) (directory : Path) :
    expand fs (component :: components) directory =
      if ((name = ['.'] ∨ name = ['.', '.']) ∧ fs.isDirectory directory = true) ∨
          (¬(name = ['.'] ∨ name = ['.', '.']) ∧ fs.hasPath (nameIn directory name) = true) then
        follow fs components (nameIn directory name)
      else [] := by
  rw [expand, spelled]
  rfl

/-- Any other is put aside at each name of the directory, and followed by the names with dots. -/
theorem expand_wild (wild : literal? component = none) (components : List (List GlobToken)) (directory : Path) :
    expand fs (component :: components) directory =
      if fs.isDirectory directory then
        ((fs.namesIn directory).reverse.map fun name =>
            .pending (nameIn directory name) (component :: components)) ++
          (dotNames component).flatMap fun name => follow fs components (directory.child name)
      else [] := by
  rw [expand, wild]
  rfl

namespace Keeps

theorem suffix (keeps : Keeps fs P Q C) {components others : List (List GlobToken)} (kind : C components)
    (suffix : others <:+ components) : C others := by
  obtain ⟨front, rfl⟩ := suffix
  induction front with
  | nil => exact kind
  | cons component front ih => exact ih (keeps.behind kind)

theorem expand (keeps : Keeps fs P Q C) (kind : C components) (here : P path) :
    ∀ v ∈ expand fs components path, v.Holds P Q C := by
  induction components generalizing path with
  | nil => exact nofun
  | cons component components ih =>
    have follow {next : Path} (last : components = [] → Q next) (on : components ≠ [] → P next) :
        ∀ v ∈ follow fs components next, v.Holds P Q C := by
      unfold follow
      split
      case isTrue done => exact List.forall_mem_singleton.2 (last (List.isEmpty_iff.1 done))
      case isFalse more => exact ih (keeps.behind kind) (on (mt List.isEmpty_iff.2 more))
    cases spelled : literal? component with
    | some name =>
      have next := keeps.literal kind here spelled
      rw [expand_literal spelled]
      split
      · exact follow (fun _ => keeps.reached next) fun _ => next
      · exact nofun
    | none =>
      rw [expand_wild spelled]
      split
      case isFalse => exact nofun
      case isTrue folder =>
        refine List.forall_mem_append.2 ⟨fun v member => ?_, fun v member => ?_⟩
        · obtain ⟨name, inside, rfl⟩ := List.mem_map.1 member
          exact ⟨keeps.listed here (List.mem_reverse.1 inside), kind⟩
        · obtain ⟨name, inside, found⟩ := List.mem_flatMap.1 member
          refine follow (fun _ => keeps.lastDots here folder inside) (fun more => ?_) v found
          obtain ⟨next, others, rfl⟩ := List.exists_cons_of_ne_nil more
          exact keeps.dots kind here inside

theorem follow (keeps : Keeps fs P Q C) (kind : C components) (here : P path) :
    ∀ v ∈ follow fs components path, v.Holds P Q C := by
  unfold Glob.follow
  split
  · exact List.forall_mem_singleton.2 (keeps.reached here)
  · exact keeps.expand kind here

theorem compareName (keeps : Keeps fs P Q C) (kind : C components) (here : P path) :
    (∀ p ∈ (compareName fs path components).1.toList, Q p) ∧
      ∀ v ∈ (compareName fs path components).2, v.Holds P Q C := by
  cases components with
  | nil => exact ⟨nofun, nofun⟩
  | cons component components =>
    rw [Glob.compareName]
    split
    · exact ⟨nofun, nofun⟩
    · split
      · split
        · exact ⟨List.forall_mem_singleton.2 (keeps.reached here), nofun⟩
        · exact ⟨nofun, keeps.expand (keeps.behind kind) here⟩
      · exact ⟨nofun, nofun⟩

end Keeps

/-- A run of double stars is taken off in front; the last of them is kept aside. -/
theorem afterDirectories_suffix (component : List GlobToken) (components : List (List GlobToken)) :
    (afterDirectories component components).1 :: (afterDirectories component components).2 <:+
      component :: components := by
  induction components generalizing component with
  | nil => exact List.suffix_refl _
  | cons next components ih =>
    rw [afterDirectories]
    split
    · exact (ih next).trans (List.suffix_cons _ _)
    · exact List.suffix_refl _

/-- A visit along a double star: what is below the path, with what its name leads to by the components behind. -/
theorem visit_directories {fuel : Nat} (stars : isDirectories component = true) :
    visit fs (fuel + 1) (.pending path (component :: components)) =
      let after := afterDirectories component components
      let below := if fs.isDirectory path then expand fs (after.1 :: after.2) path else []
      if after.2.isEmpty then
        (if fs.isDirectory path then [path] else []) ++ below.reverse.flatMap (visit fs fuel)
      else
        (compareName fs path after.2).1.toList ++
          (below ++ (compareName fs path after.2).2).reverse.flatMap (visit fs fuel) := by
  rw [visit, if_pos stars]

theorem visit_name {fuel : Nat} (single : isDirectories component = false) :
    visit fs (fuel + 1) (.pending path (component :: components)) =
      (compareName fs path (component :: components)).1.toList ++
        (compareName fs path (component :: components)).2.reverse.flatMap (visit fs fuel) := by
  rw [visit, if_neg (by rw [single]; exact Bool.false_ne_true)]

theorem Keeps.visit (keeps : Keeps fs P Q C) {fuel : Nat} {v : Visit} (holds : v.Holds P Q C) :
    ∀ p ∈ visit fs fuel v, Q p := by
  induction fuel generalizing v with
  | zero => exact nofun
  | succ fuel ih =>
    have aside {visits : List Visit} (all : ∀ v ∈ visits, v.Holds P Q C) :
        ∀ p ∈ visits.reverse.flatMap (Glob.visit fs fuel), Q p := by
      intro p member
      obtain ⟨v, inside, found⟩ := List.mem_flatMap.1 member
      exact ih (all v (List.mem_reverse.1 inside)) p found
    match v, holds with
    | .found path, here => exact List.forall_mem_singleton.2 here
    | .pending path [], _ => exact nofun
    | .pending path (component :: components), ⟨here, kind⟩ =>
      cases stars : isDirectories component with
      | false =>
        obtain ⟨matched, further⟩ := keeps.compareName kind here
        rw [visit_name stars]
        exact List.forall_mem_append.2 ⟨matched, aside further⟩
      | true =>
        have kindAfter := keeps.suffix kind (afterDirectories_suffix component components)
        obtain ⟨matched, further⟩ := keeps.compareName (keeps.behind kindAfter) here
        have below : ∀ v ∈ if fs.isDirectory path then
            Glob.expand fs ((afterDirectories component components).1 ::
              (afterDirectories component components).2) path
            else [], v.Holds P Q C := by
          split
          · exact keeps.expand kindAfter here
          · exact nofun
        rw [visit_directories stars]
        dsimp only
        split
        · refine List.forall_mem_append.2 ⟨?_, aside below⟩
          split
          · exact List.forall_mem_singleton.2 (keeps.reached here)
          · exact nofun
        · exact List.forall_mem_append.2 ⟨matched, aside (List.forall_mem_append.2 ⟨below, further⟩)⟩

/-! ## Whole patterns -/

theorem map_parse?_of_mapM {texts : List Text} (parsed : texts.mapM parse? = some components) :
    texts.map parse? = components.map some := by
  induction texts generalizing components with
  | nil =>
    obtain rfl : [] = components := Option.some.inj parsed
    rfl
  | cons text texts ih =>
    rw [List.mapM_cons] at parsed
    obtain ⟨first, here, parsed⟩ := Option.bind_eq_some_iff.1 parsed
    obtain ⟨rest, further, same⟩ := Option.bind_eq_some_iff.1 parsed
    obtain rfl := Option.some.inj same
    rw [List.map_cons, List.map_cons, here, ih further]

/-- The pieces of a pattern that lists files are patterns, and each file has been visited from the start. -/
theorem exists_of_files? {pattern : Path} {found : List Path} (listed : files? fs pattern = some found) :
    ∃ components fuel, (splitPattern pattern.text).2.map parse? = components.map some ∧
      ∀ p ∈ found, fs.isFile p = true ∧ p ∈ (expand fs components
        (if (splitPattern pattern.text).1 then rootDirectory else startDirectory)).reverse.flatMap
          (visit fs fuel) := by
  obtain ⟨paths, walked, rfl⟩ := Option.map_eq_some_iff.1 listed
  obtain ⟨tokens, -, walked⟩ := Option.bind_eq_some_iff.1 walked
  obtain ⟨components, parsed, walked⟩ := Option.bind_eq_some_iff.1 walked
  obtain rfl := Option.some.inj walked
  refine ⟨components, (components.length + 1) * (fs.depth + 2), map_parse?_of_mapM parsed, fun p member => ?_⟩
  rw [List.mem_mergeSort, List.mem_filter] at member
  exact ⟨member.2, member.1⟩

/-- What holds at the root tells about every path that an absolute pattern lists. -/
theorem Keeps.mem_files? (keeps : Keeps fs P Q C) (start : P rootDirectory) {pattern : Path} {found : List Path}
    (absolute : (splitPattern pattern.text).1 = true)
    (kind : ∀ components, (splitPattern pattern.text).2.map parse? = components.map some → C components)
    (listed : files? fs pattern = some found) : ∀ p ∈ found, Q p := by
  obtain ⟨components, fuel, parsed, visited⟩ := exists_of_files? listed
  rw [absolute, if_pos rfl] at visited
  intro p member
  obtain ⟨v, inside, reached⟩ := List.mem_flatMap.1 (visited p member).2
  exact keeps.visit (keeps.expand (kind components parsed) start v (List.mem_reverse.1 inside)) p reached

end ModuleHooks.Glob
