import ModuleHooks.FileSystem.Tree
import ModuleHooks.Module.Aggregate
import ModuleHooks.Proofs.Glob.Listing
import ModuleHooks.Proofs.Path.Extension

/-!
The files of an aggregate. The pattern is read behind the names of the importing directory, which are segments
of it as any other (`count_files`). So a directory is taken literally only if its path has no wildcard: then the
files of the aggregate are those below the directory whose names from there fit the pattern, and with two stars
in one place at most each is there once (`files_below`). A bracket in the directory is read as one in the pattern
is (`files_bracket`).
-/
namespace ModuleHooks.VirtualModule

open ModuleHooks.Path Glob

variable {fs : FileSystem} {m : VirtualModule} {names : List Text}

/-- The pattern as a path from the root. -/
def place (m : VirtualModule) : Path := (m.importerDirectory.join ⟨m.pattern⟩).normalize

/-- The pieces of the pattern that mean something. -/
def segments (m : VirtualModule) : List Text := (Text.splitAt '/' m.pattern).filter (!isIdle ·)

theorem place_eq (absolute : m.importerDirectory.isAbsolute = true) (relative : isAbsolute ⟨m.pattern⟩ = false)
    (level : ['.', '.'] ∉ Text.splitAt '/' m.pattern) :
    m.place = ofNames true (m.importerDirectory.normalNames ++ m.segments) := by
  rw [place, normalize_eq_ofNames, isAbsolute_join _ absolute]
  exact congrArg (ofNames true) (normalNames_child m.importerDirectory relative level)

theorem isName_of_mem_segments (level : ['.', '.'] ∉ Text.splitAt '/' m.pattern) :
    ∀ s ∈ m.segments, IsName s := by
  intro s member
  obtain ⟨inside, meaning⟩ := List.mem_filter.1 member
  exact ⟨Text.notMem_of_mem_splitAt inside, by simpa using meaning, fun up => level (up ▸ inside)⟩

/-- An aggregate has the files whose names fit those of the pattern, seen from the root, each as often as they
do. They are written in their normal form unless a segment that is not the last one matches the dots of a
directory. -/
theorem count_files (layered : fs.IsLayered) (slashed : m.place.toSlash = (ofNames true names).text)
    (good : ∀ s ∈ names, IsSegment s) :
    ∃ found, m.files fs = .ok found ∧ found.Pairwise (le · ·) ∧
      (∀ f ∈ found, fs.isFile f = true ∧ f.isAbsolute = true) ∧
      ((∀ s ∈ names.dropLast, AvoidsDots s) → ∀ f ∈ found, IsNamed f) ∧
      ∀ ns, (∀ n ∈ ns, IsName n) → fs.isFile (ofNames true ns) = true →
        found.count (ofNames true ns) = ways names ns := by
  obtain ⟨found, listed, rest⟩ := files?_ofNames layered good
  refine ⟨found, ?_, rest⟩
  have same : (⟨(m.importerDirectory.join ⟨m.pattern⟩).normalize.toSlash⟩ : Path) = ofNames true names :=
    congrArg Path.mk slashed
  rw [files, same, listed]

theorem count_le_one_of_mem {found : List Path} {f : Path} (once : f ∈ found → found.count f ≤ 1) :
    found.count f ≤ 1 := by
  by_cases member : f ∈ found
  · exact once member
  · rw [List.count_eq_zero_of_not_mem member]
    exact Nat.zero_le 1

/-- With two stars in one place at most no file in normal form is there twice. -/
theorem count_le_one {found : List Path} {f : Path} (place : InOnePlace names)
    (known : ∀ f ∈ found, fs.isFile f = true)
    (counted : ∀ ns, (∀ n ∈ ns, IsName n) → fs.isFile (ofNames true ns) = true →
      found.count (ofNames true ns) = ways names ns) (named : IsNamed f) : found.count f ≤ 1 := by
  refine count_le_one_of_mem fun member => ?_
  obtain ⟨ns, proper, rfl⟩ := named
  rw [counted ns proper (known _ member)]
  exact ways_le_one place

theorem nodup_of_isNamed {found : List Path} (named : ∀ f ∈ found, IsNamed f)
    (once : ∀ f, IsNamed f → found.count f ≤ 1) : found.Nodup :=
  List.nodup_iff_count_le_one.2 fun f => count_le_one_of_mem fun member => once f (named f member)

theorem normalize_of_isNamed {f : Path} (named : IsNamed f) : f.normalize = f := by
  obtain ⟨ns, proper, rfl⟩ := named
  exact normalize_ofNames proper

/-! ## Below a directory without wildcards -/

theorem subset_of_mem_normalNames {p : Path} (normal : p.normalize = p) (absolute : p.isAbsolute = true)
    {name : Text} (member : name ∈ p.normalNames) : name ⊆ p.text := by
  have inside : name ⊆ (ofNames true p.normalNames).text :=
    List.subset_cons_of_subset '/' (Text.subset_joinWith member)
  rwa [← absolute, ← normalize_eq_ofNames, normal] at inside

/-- The pattern is read as it is written behind the names of the directory. -/
theorem toSlash_place (normal : m.importerDirectory.normalize = m.importerDirectory)
    (absolute : m.importerDirectory.isAbsolute = true) (unmarkedDirectory : '\\' ∉ m.importerDirectory.text)
    (relative : isAbsolute ⟨m.pattern⟩ = false) (level : ['.', '.'] ∉ Text.splitAt '/' m.pattern)
    (unmarked : '\\' ∉ m.pattern) :
    m.place.toSlash = (ofNames true (m.importerDirectory.normalNames ++ m.segments)).text := by
  rw [place_eq absolute relative level, toSlash_of_notMem]
  intro marked
  rcases List.mem_cons.1 marked with slash | marked
  · exact nomatch slash
  obtain slash | ⟨piece, member, found⟩ := Text.mem_joinWith marked
  · exact nomatch slash
  rcases List.mem_append.1 member with above | below
  · exact unmarkedDirectory (subset_of_mem_normalNames normal absolute above found)
  · exact unmarked (Text.subset_of_mem_splitAt (List.mem_of_mem_filter below) found)

/-- What fits the names of a directory and segments behind them lies below it with names that fit those. -/
theorem fits_below {directory : Path} {segments ns : List Text} (normal : directory.normalize = directory)
    (absolute : directory.isAbsolute = true) (literal : ∀ n ∈ directory.normalNames, IsLiteral n)
    (proper : ∀ n ∈ ns, IsName n) (apart : ofNames true ns ≠ directory) :
    Fits (directory.normalNames ++ segments) ns ↔
      ∃ names, (ofNames true ns).components = directory.components ++ names.map .name ∧ Fits segments names := by
  obtain ⟨above, rfl, properAbove⟩ := exists_names normal absolute
  rw [normalNames_ofNames properAbove] at literal ⊢
  have behind (names : List Text) : (ofNames true ns).components =
      (ofNames true above).components ++ names.map .name ↔ ns = above ++ names := by
    rw [components_ofNames proper, components_ofNames properAbove, List.append_assoc, ← List.map_append,
      List.append_cancel_left_eq, List.map_inj_right fun _ _ => Component.name.inj]
  simp only [behind]
  by_cases nothing : segments = []
  · -- Without segments the pattern is for the directory itself.
    rw [nothing, List.append_nil]
    refine ⟨fun fits => ?_, fun ⟨_, _, fits⟩ => absurd fits not_fits_nil⟩
    exact absurd (congrArg (ofNames true) (eq_of_fits_literal literal fits)) apart
  · exact fits_append_literal literal nothing

/-- Names without wildcards in front of the segments leave two stars where they are. -/
theorem inOnePlace_append {above segments : List Text} (literal : ∀ name ∈ above, IsLiteral name)
    (place : InOnePlace segments) : InOnePlace (above ++ segments) := by
  obtain ⟨front, stars, back, split, only, singleFront, singleBack⟩ := place
  refine ⟨above ++ front, stars, back, by rw [split]; simp, only, fun member => ?_, singleBack⟩
  rcases List.mem_append.1 member with inside | member
  · exact ne_anyNames_of_literal (literal _ inside) rfl
  · exact singleFront member

/-- They match no dots either. -/
theorem avoidsDots_append {above segments : List Text} (proper : ∀ name ∈ above, IsName name)
    (literal : ∀ name ∈ above, IsLiteral name) (avoid : ∀ s ∈ segments.dropLast, AvoidsDots s) :
    ∀ s ∈ (above ++ segments).dropLast, AvoidsDots s := by
  have front : ∀ s ∈ above, AvoidsDots s := fun s member =>
    avoidsDots_of_literal (proper s member) (literal s member)
  rw [List.dropLast_append]
  split
  · exact fun s member => front s (List.dropLast_subset _ member)
  · exact List.forall_mem_append.2 ⟨front, avoid⟩

/-- Let the importing directory be written in its normal form, from the root, without wildcards and backslashes,
and be no file. Let the pattern begin with a dot and a slash and have no step up and no backslash, and let its
segments be patterns. Then the files of the aggregate stand in the order of paths, and among those in normal form
they are the files below the directory whose names from there fit the segments. With two stars in one place at
most none of these is there twice. No other files are there if none of the segments but the last matches the dots
of a directory. -/
theorem files_below (layered : fs.IsLayered) (normal : m.importerDirectory.normalize = m.importerDirectory)
    (absolute : m.importerDirectory.isAbsolute = true) (literal : IsLiteral m.importerDirectory.text)
    (unmarkedDirectory : '\\' ∉ m.importerDirectory.text) (directory : fs.isFile m.importerDirectory = false)
    (relative : ['.', '/'] <+: m.pattern) (level : ['.', '.'] ∉ Text.splitAt '/' m.pattern)
    (unmarked : '\\' ∉ m.pattern) (valid : ∀ s ∈ m.segments, (parse? s).isSome = true) :
    ∃ found, m.files fs = .ok found ∧ found.Pairwise (le · ·) ∧
      (∀ f, f.normalize = f → (f ∈ found ↔ fs.isFile f = true ∧
        ∃ names, f.components = m.importerDirectory.components ++ names.map .name ∧ Fits m.segments names)) ∧
      (InOnePlace m.segments → ∀ f, f.normalize = f → found.count f ≤ 1) ∧
      ((∀ s ∈ m.segments.dropLast, AvoidsDots s) →
        (∀ f ∈ found, f.normalize = f) ∧ (InOnePlace m.segments → found.Nodup)) := by
  have proper : ∀ n ∈ m.importerDirectory.normalNames, IsName n := fun _ => isName_of_mem_normalNames
  have plain : ∀ n ∈ m.importerDirectory.normalNames, IsLiteral n := fun n member c found =>
    literal c (subset_of_mem_normalNames normal absolute member found)
  have good : ∀ s ∈ m.importerDirectory.normalNames ++ m.segments, IsSegment s := by
    refine List.forall_mem_append.2 ⟨fun s member => ?_, fun s member => ?_⟩
    · exact isSegment_of_literal (proper s member) (plain s member)
    · exact ⟨isName_of_mem_segments level s member, valid s member⟩
  have slashed : m.place.toSlash = (ofNames true (m.importerDirectory.normalNames ++ m.segments)).text := by
    obtain ⟨rest, dotted⟩ := relative
    exact toSlash_place normal absolute unmarkedDirectory (by rw [← dotted]; rfl) level unmarked
  obtain ⟨found, listed, sorted, known, named, counted⟩ := count_files layered slashed good
  have isFile : ∀ f ∈ found, fs.isFile f = true := fun f member => (known f member).1
  have once (place : InOnePlace m.segments) (f : Path) (named : IsNamed f) : found.count f ≤ 1 :=
    count_le_one (inOnePlace_append plain place) isFile counted named
  -- A file is no directory, so it is not the importing one.
  have apart {f : Path} (file : fs.isFile f = true) : f ≠ m.importerDirectory := by
    rintro rfl
    exact Bool.false_ne_true (directory.symm.trans file)
  refine ⟨found, listed, sorted, fun f normalFile => ⟨fun member => ?_, ?_⟩, fun place f normalFile => ?_,
    fun avoid => ?_⟩
  · obtain ⟨file, rooted⟩ := known f member
    obtain ⟨ns, rfl, properFile⟩ := exists_names normalFile rooted
    have fits := fits_iff.2 (counted ns properFile file ▸ List.count_pos_iff.2 member)
    exact ⟨file, (fits_below normal absolute plain properFile (apart file)).1 fits⟩
  · rintro ⟨file, rest, behind, fits⟩
    have rooted : f.isAbsolute = true := by
      rw [isAbsolute_iff, behind]
      exact List.mem_append_left _ (m.importerDirectory.isAbsolute_iff.1 absolute)
    obtain ⟨ns, rfl, properFile⟩ := exists_names normalFile rooted
    have whole := (fits_below normal absolute plain properFile (apart file)).2 ⟨rest, behind, fits⟩
    rw [← List.count_pos_iff, counted ns properFile file]
    exact fits_iff.1 whole
  · refine count_le_one_of_mem fun member => ?_
    obtain ⟨ns, rfl, proper⟩ := exists_names normalFile (known f member).2
    exact once place _ ⟨ns, proper, rfl⟩
  · have every : ∀ f ∈ found, IsNamed f := named (avoidsDots_append proper plain avoid)
    exact ⟨fun f member => normalize_of_isNamed (every f member), fun place => nodup_of_isNamed every (once place)⟩

/-- Routes in directories, beside a style sheet and a file above them. -/
def routesTree : FileTree :=
  ⟨[(["repo".toList, "src".toList, "a.ts".toList], .text []),
    (["repo".toList, "src".toList, "deep".toList, "b.ts".toList], .text []),
    (["repo".toList, "src".toList, "c.css".toList], .text []), (["repo".toList, "d.ts".toList], .text [])], []⟩

theorem routesTree_isLayered : routesTree.walking.IsLayered :=
  FileTree.walking_isLayered (by decide +kernel) (by decide +kernel)

theorem files_below_routes :
    let m : VirtualModule := ⟨"./**/*.ts".toList, ⟨"/repo/src".toList⟩, .module⟩
    ∃ found, m.files routesTree.walking = .ok found ∧ found.Nodup ∧ ⟨"/repo/src/a.ts".toList⟩ ∈ found ∧
      ⟨"/repo/src/deep/b.ts".toList⟩ ∈ found ∧ ⟨"/repo/src/c.css".toList⟩ ∉ found ∧
      ⟨"/repo/d.ts".toList⟩ ∉ found := by
  intro m
  have segments : m.segments = [anyNames, "*.ts".toList] := by decide +kernel
  obtain ⟨found, listed, -, iff, -, others⟩ := files_below (m := m) routesTree_isLayered (by decide +kernel)
    (by decide +kernel) (by decide +kernel) (by decide +kernel) (by decide +kernel) (by decide +kernel)
    (by decide +kernel) (by decide +kernel) (by decide +kernel)
  rw [segments] at iff others
  have place : InOnePlace [anyNames, "*.ts".toList] :=
    ⟨[], [anyNames], ["*.ts".toList], rfl, by simp, by simp, by decide⟩
  refine ⟨found, listed, (others (by decide)).2 place, ?_, ?_, fun member => ?_, fun member => ?_⟩
  · refine (iff _ (by decide +kernel)).2 ⟨by decide +kernel, ["a.ts".toList], by decide +kernel, ?_⟩
    exact fits_iff.2 (by decide +kernel)
  · refine (iff _ (by decide +kernel)).2
      ⟨by decide +kernel, ["deep".toList, "b.ts".toList], by decide +kernel, ?_⟩
    exact fits_iff.2 (by decide +kernel)
  · obtain ⟨-, names, behind, further⟩ := (iff _ (by decide +kernel)).1 member
    have here : Path.components ⟨"/repo/src/c.css".toList⟩ =
        m.importerDirectory.components ++ ["c.css".toList].map .name := by decide +kernel
    have same := List.append_cancel_left (behind.symm.trans here)
    obtain rfl := (List.map_inj_right fun _ _ => Component.name.inj).1 same
    exact absurd (fits_iff.1 further) (by decide +kernel)
  · obtain ⟨-, names, behind, -⟩ := (iff _ (by decide +kernel)).1 member
    have outside : ¬m.importerDirectory.Contains ⟨"/repo/d.ts".toList⟩ := by decide +kernel
    exact outside ⟨_, behind.symm⟩

/-! ## A directory with a wildcard -/

/-- A directory with a bracket in its name, beside the one that the bracket matches. -/
def bracketTree : FileTree :=
  ⟨[(["a[b]".toList, "x.ts".toList], .text []), (["ab".toList, "x.ts".toList], .text [])], []⟩

theorem bracketTree_isLayered : bracketTree.walking.IsLayered :=
  FileTree.walking_isLayered (by decide +kernel) (by decide +kernel)

/-- Seen from the directory with the bracket, the aggregate has the file of the other directory and not the one
of its own, which fits the pattern. -/
theorem files_bracket :
    let m : VirtualModule := ⟨"./*.ts".toList, ⟨"/a[b]".toList⟩, .module⟩
    let own : Path := ⟨"/a[b]/x.ts".toList⟩
    let other : Path := ⟨"/ab/x.ts".toList⟩
    m.importerDirectory.normalize = m.importerDirectory ∧ bracketTree.walking.isFile own = true ∧
      own.components = m.importerDirectory.components ++ ["x.ts".toList].map .name ∧
      Fits m.segments ["x.ts".toList] ∧ ¬other.IsBelow m.importerDirectory ∧
      ∃ found, m.files bracketTree.walking = .ok found ∧ own ∉ found ∧ other ∈ found := by
  intro m own other
  have segments : m.segments = ["*.ts".toList] := by decide +kernel
  have slashed : m.place.toSlash = (ofNames true ["a[b]".toList, "*.ts".toList]).text := by decide +kernel
  obtain ⟨found, listed, -, -, -, counted⟩ := count_files bracketTree_isLayered slashed (by decide +kernel)
  have ownCount := counted ["a[b]".toList, "x.ts".toList] (by decide +kernel) (by decide +kernel)
  have otherCount := counted ["ab".toList, "x.ts".toList] (by decide +kernel) (by decide +kernel)
  refine ⟨by decide +kernel, by decide +kernel, by decide +kernel, ?_, by decide +kernel, found, listed, ?_, ?_⟩
  · rw [segments]
    exact .last (by decide) (by decide +kernel)
  · exact List.count_eq_zero.1 (ownCount.trans (by decide +kernel))
  · exact List.count_pos_iff.1 (otherCount ▸ by decide +kernel)

end ModuleHooks.VirtualModule
