import ModuleHooks.Proofs.Path.Below
import ModuleHooks.Proofs.Tsconfig.Cache
import ModuleHooks.Proofs.Tsconfig.Inheritance

/-!
Which configuration governs a file. A cache that remembers nothing asks the closest configuration above the file
and no other one. So the file has the options of the closest configuration that it belongs to, and those of the
fallback if there is none, unless the closest configuration of all hides one that it belongs to
(`optionsFor_nearest`).
-/
namespace ModuleHooks.TsconfigCache

open Hooked

/-- The directory of a file, or one above it. -/
def IsAbove (directory file : Path) : Prop :=
  directory.normalize = directory ∧ directory.isAbsolute = true ∧
    directory.Contains (LoadedTsconfig.directoryOf file)

/-- Whether there is a configuration in a directory. -/
def hasConfig (fs : FileSystem) (directory : Path) : Bool := fs.isFile (directory.child Tsconfig.fileName)

/-- The configuration in a directory is loaded as this one. -/
def Holds (fs : FileSystem) (directory : Path) (c : LoadedTsconfig) : Prop :=
  hasConfig fs directory = true ∧ (Tsconfig.load fs (directory.child Tsconfig.fileName)).result = .ok c

/-- A directory above a file has a configuration that the file belongs to. -/
def Admits (fs : FileSystem) (file directory : Path) : Prop :=
  IsAbove directory file ∧ ∃ c, Holds fs directory c ∧ c.admits file = true

/-- Of the directories with a property, the one that lies in all others. -/
def IsClosest (has : Path → Prop) (directory : Path) : Prop :=
  has directory ∧ ∀ other, has other → other.Contains directory

/-- A directory above a file has a configuration. -/
def Surrounds (fs : FileSystem) (file directory : Path) : Prop :=
  IsAbove directory file ∧ hasConfig fs directory = true

/-- All configurations above a file can be loaded. -/
def LoadsAbove (fs : FileSystem) (file : Path) : Prop :=
  ∀ directory, Surrounds fs file directory → ∃ c, Holds fs directory c

/-- The options of a file under the fallback alone. -/
def fallbackOptions (fallback : Option LoadedTsconfig) (file : Path) : Option CompilerOptions :=
  (fallback.filter (·.admits file)).map LoadedTsconfig.compilerOptions

/-- The options are those of the closest configuration that the file belongs to, and those of the fallback if
there is no such configuration. -/
def Governs (fs : FileSystem) (fallback : Option LoadedTsconfig) (file : Path)
    (options : Option CompilerOptions) : Prop :=
  (∃ directory c, IsClosest (Admits fs file) directory ∧ Holds fs directory c ∧
    options = some c.compilerOptions) ∨
  (¬∃ directory, Admits fs file directory) ∧ options = fallbackOptions fallback file

/-- The file does not belong to the closest configuration, but to one above. -/
def IsHidden (fs : FileSystem) (file : Path) : Prop :=
  (∃ directory c, IsClosest (Surrounds fs file) directory ∧ Holds fs directory c ∧ c.admits file = false) ∧
    ∃ directory, Admits fs file directory

variable {fs : FileSystem} {file directory : Path} {c : LoadedTsconfig}

/-! ## The closest configuration -/

theorem Admits.surrounds (admits : Admits fs file directory) : Surrounds fs file directory :=
  ⟨admits.1, admits.2.elim fun _ held => held.1.1⟩

/-- Only one directory is the closest. -/
theorem IsClosest.unique {other : Path} (closest : IsClosest (Surrounds fs file) directory)
    (closestToo : IsClosest (Surrounds fs file) other) : other = directory := by
  have same : other.components = directory.components :=
    (closest.2 other closestToo.1).eq_of_length_le (closestToo.2 directory closest.1).length_le
  rw [← closestToo.1.1.1, ← closest.1.1.1, Path.normalize_congr same]

/-- A file that belongs to the closest configuration is not hidden from it. -/
theorem not_isHidden (closest : IsClosest (Surrounds fs file) directory) (held : Holds fs directory c)
    (admitted : c.admits file = true) : ¬IsHidden fs file := by
  rintro ⟨⟨other, e, closestToo, heldToo, rejected⟩, -⟩
  obtain rfl := closest.unique closestToo
  obtain rfl := Except.ok.inj (heldToo.2.symm.trans held.2)
  exact Bool.false_ne_true (rejected.symm.trans admitted)

theorem normalize_directoryOf (normal : file.normalize = file) :
    (LoadedTsconfig.directoryOf file).normalize = LoadedTsconfig.directoryOf file := by
  unfold LoadedTsconfig.directoryOf
  cases found : file.parent? with
  | none => rfl
  | some above => exact Path.normalize_parent? normal found

theorem isAbove_iff (normal : file.normalize = file) (absolute : file.isAbsolute = true) :
    IsAbove directory file ↔ directory ∈ (LoadedTsconfig.directoryOf file).ancestors :=
  (Path.mem_ancestors_iff (normalize_directoryOf normal) (Tsconfig.isAbsolute_directoryOf absolute)).symm

/-- The first of the directories above a file that has a configuration is the closest. -/
theorem isClosest_of_find? (normal : file.normalize = file) (absolute : file.isAbsolute = true)
    (found : (LoadedTsconfig.directoryOf file).ancestors.find? (hasConfig fs) = some directory) :
    IsClosest (Surrounds fs file) directory := by
  obtain ⟨has, before, behind, whole, without⟩ := List.find?_eq_some_iff_append.1 found
  have member : directory ∈ (LoadedTsconfig.directoryOf file).ancestors := by simp [whole]
  constructor
  · exact ⟨(isAbove_iff normal absolute).2 member, has⟩
  rintro other ⟨above, hasToo⟩
  have order := Path.pairwise_ancestors (LoadedTsconfig.directoryOf file)
  have inside := (isAbove_iff normal absolute).1 above
  rw [whole] at order inside
  obtain missing | rfl | further : other ∈ before ∨ other = directory ∨ other ∈ behind := by
    simpa using inside
  · have no := without other missing
    rw [hasToo] at no
    exact nomatch no
  · exact List.prefix_refl _
  · exact List.rel_of_pairwise_cons (List.pairwise_append.1 order).2.1 further

/-- The nearest configuration, by the directory that it is in. -/
theorem nearestAlone_eq (fs : FileSystem) (d : Path) :
    nearestAlone fs d =
      match d.ancestors.find? (hasConfig fs) with
      | none => .ok none
      | some directory => (Tsconfig.load fs (directory.child Tsconfig.fileName)).result.map some := by
  have places : (placesAbove d).find? fs.isFile =
      (d.ancestors.find? (hasConfig fs)).map (·.child Tsconfig.fileName) := List.find?_map ..
  rw [nearestAlone, places]
  cases d.ancestors.find? (hasConfig fs) <;> rfl

/-- What a cache that remembers nothing answers. -/
theorem outcome_optionsFor (fs : FileSystem) (fallback : Option LoadedTsconfig) (file : Path) :
    ((optionsFor fs fallback file).outcome {}).1 =
      (nearestAlone fs (LoadedTsconfig.directoryOf file)).map (optionsUnder fallback file) := by
  obtain ⟨u, ran, -⟩ := settles_optionsFor (isSpelledOnce_placesAbove (LoadedTsconfig.directoryOf file))
    fallback (List.Subset.refl _) ⟨{}, []⟩ (remembers_empty : Remembers fs _ {})
  rw [outcome_eq_runFrom, ran]

/-- Where all configurations above a file can be loaded, it has the options of the closest one that it belongs
to, and those of the fallback if there is none, unless the closest of all hides one that it belongs to; then it
has those of the fallback. -/
theorem optionsFor_nearest (fs : FileSystem) (fallback : Option LoadedTsconfig) {file : Path}
    (normal : file.normalize = file) (absolute : file.isAbsolute = true) (loads : LoadsAbove fs file) :
    ∃ options, ((optionsFor fs fallback file).outcome {}).1 = .ok options ∧
      (¬IsHidden fs file → Governs fs fallback file options) ∧
      (IsHidden fs file → options = fallbackOptions fallback file) := by
  rw [outcome_optionsFor, nearestAlone_eq]
  cases found : (LoadedTsconfig.directoryOf file).ancestors.find? (hasConfig fs) with
  | none =>
    have nothing : ¬∃ directory, Admits fs file directory := by
      rintro ⟨directory, admits⟩
      have member := (isAbove_iff normal absolute).1 admits.1
      exact absurd admits.surrounds.2 (List.find?_eq_none.1 found directory member)
    refine ⟨fallbackOptions fallback file, rfl, ?_, ?_⟩
    · intro _
      exact .inr ⟨nothing, rfl⟩
    · intro _
      rfl
  | some directory =>
    have closest := isClosest_of_find? normal absolute found
    obtain ⟨c, held⟩ := loads directory closest.1
    refine ⟨optionsUnder fallback file (some c), by dsimp only; rw [held.2]; rfl, ?_⟩
    rw [optionsUnder_some]
    cases admitted : c.admits file with
    | true =>
      have chosen : IsClosest (Admits fs file) directory :=
        ⟨⟨closest.1.1, c, held, admitted⟩, fun other admits => closest.2 other admits.surrounds⟩
      constructor
      · intro _
        exact .inl ⟨directory, c, chosen, held, rfl⟩
      · intro hidden
        exact absurd hidden (not_isHidden closest held admitted)
    | false =>
      constructor
      · intro unhidden
        refine .inr ⟨?_, rfl⟩
        intro admitting
        exact unhidden ⟨⟨directory, c, closest, held, admitted⟩, admitting⟩
      · intro _
        rfl

/-- What is seen of the configuration in a directory. -/
theorem exists_holds {α : Type} (fs : FileSystem) (directory : Path) (view : LoadedTsconfig → α) {a : α}
    (evaluated : let path := directory.child Tsconfig.fileName
      fs.isFile path = true ∧
        ((Tsconfig.loadWithin fs (fs.files.length + 1) [path.normalize] path).bind Except.toOption).map
          (fun c => view ⟨path, c⟩) = some a) :
    ∃ c, Holds fs directory c ∧ view c = a := by
  obtain ⟨has, seen⟩ := evaluated
  obtain ⟨c, loaded, same⟩ := Tsconfig.exists_load fs _ _ seen ()
  exact ⟨_, ⟨has, loaded⟩, same⟩

/-- A directory with a configuration in one with another, which is for one directory only. -/
def layeredTree : FileTree :=
  ⟨[(["p".toList, "tsconfig.json".toList],
      .text "\x7b\"compilerOptions\":\x7b\"jsx\":\"react\"\x7d\x7d".toList),
    (["p".toList, "x".toList, "tsconfig.json".toList], .text "\x7b\"include\":[\"src\"]\x7d".toList)], []⟩

/-- Both configurations can be loaded. -/
theorem layeredTree_loadsAbove {file : Path} (normal : file.normalize = file)
    (absolute : file.isAbsolute = true)
    (inside : (LoadedTsconfig.directoryOf file).ancestors.filter (hasConfig layeredTree.lexical) =
      [⟨"/p/x".toList⟩, ⟨"/p".toList⟩]) : LoadsAbove layeredTree.lexical file := by
  rintro directory ⟨above, has⟩
  have member : directory ∈ (LoadedTsconfig.directoryOf file).ancestors.filter (hasConfig layeredTree.lexical) :=
    List.mem_filter.2 ⟨(isAbove_iff normal absolute).1 above, has⟩
  rw [inside, List.mem_cons, List.mem_singleton] at member
  obtain rfl | rfl := member
  · obtain ⟨c, held, -⟩ := exists_holds layeredTree.lexical ⟨"/p/x".toList⟩
      (fun _ => ()) (a := ()) (by decide +kernel)
    exact ⟨c, held⟩
  · obtain ⟨c, held, -⟩ := exists_holds layeredTree.lexical ⟨"/p".toList⟩
      (fun _ => ()) (a := ()) (by decide +kernel)
    exact ⟨c, held⟩

theorem optionsFor_nearest_layered :
    let file : Path := ⟨"/p/x/src/a.ts".toList⟩
    file.normalize = file ∧ file.isAbsolute = true ∧ LoadsAbove layeredTree.lexical file ∧
      ¬IsHidden layeredTree.lexical file ∧
      ∃ options, ((optionsFor layeredTree.lexical none file).outcome {}).1 = .ok options ∧
        Governs layeredTree.lexical none file options := by
  intro file
  have normal : file.normalize = file := by decide +kernel
  have absolute : file.isAbsolute = true := by decide
  have loads : LoadsAbove layeredTree.lexical file :=
    layeredTree_loadsAbove normal absolute (by decide +kernel)
  have closest : IsClosest (Surrounds layeredTree.lexical file) ⟨"/p/x".toList⟩ :=
    isClosest_of_find? normal absolute (by decide +kernel)
  obtain ⟨c, held, admitted⟩ := exists_holds layeredTree.lexical ⟨"/p/x".toList⟩
    (fun c => c.admits file) (a := true) (by decide +kernel)
  have unhidden := not_isHidden closest held admitted
  obtain ⟨options, answered, governs, -⟩ := optionsFor_nearest layeredTree.lexical none normal absolute loads
  exact ⟨normal, absolute, loads, unhidden, options, answered, governs unhidden⟩

/-- A file that the closest configuration is not for has no options, though it belongs to the next one. -/
theorem optionsFor_hidden :
    let file : Path := ⟨"/p/x/a.ts".toList⟩
    file.normalize = file ∧ file.isAbsolute = true ∧ LoadsAbove layeredTree.lexical file ∧
      (∃ c, IsAbove ⟨"/p".toList⟩ file ∧ Holds layeredTree.lexical ⟨"/p".toList⟩ c ∧ c.admits file = true ∧
        c.compilerOptions.jsx = some "react".toList) ∧
      ((optionsFor layeredTree.lexical none file).outcome {}).1 = .ok none ∧
      ¬Governs layeredTree.lexical none file none := by
  intro file
  have normal : file.normalize = file := by decide +kernel
  have absolute : file.isAbsolute = true := by decide
  have above : IsAbove ⟨"/p".toList⟩ file := (isAbove_iff normal absolute).2 (by decide +kernel)
  obtain ⟨outer, heldOuter, seen⟩ := exists_holds layeredTree.lexical ⟨"/p".toList⟩
    (fun c => (c.admits file, c.compilerOptions.jsx)) (a := (true, some "react".toList)) (by decide +kernel)
  obtain ⟨admitted, jsx⟩ := Prod.mk.inj seen
  obtain ⟨inner, heldInner, rejected⟩ := exists_holds layeredTree.lexical ⟨"/p/x".toList⟩
    (fun c => c.admits file) (a := false) (by decide +kernel)
  have first : (LoadedTsconfig.directoryOf file).ancestors.find? (hasConfig layeredTree.lexical) =
      some ⟨"/p/x".toList⟩ := by decide +kernel
  refine ⟨normal, absolute, layeredTree_loadsAbove normal absolute (by decide +kernel),
    ⟨outer, above, heldOuter, admitted, jsx⟩, ?_, ?_⟩
  · rw [outcome_optionsFor, nearestAlone_eq, first]
    dsimp only
    rw [heldInner.2]
    show Except.ok (optionsUnder none file (some inner)) = _
    rw [optionsUnder_some, rejected]
    rfl
  · rintro (⟨directory, c, -, -, some⟩ | ⟨nothing, -⟩)
    · exact nomatch some
    · exact nothing ⟨_, above, outer, heldOuter, admitted⟩

end ModuleHooks.TsconfigCache
