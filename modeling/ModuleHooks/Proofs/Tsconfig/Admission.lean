import ModuleHooks.FileSystem.Tree
import ModuleHooks.Proofs.Glob.Literal
import ModuleHooks.Proofs.Path.Below
import ModuleHooks.Proofs.Path.Extension
import ModuleHooks.Proofs.Tsconfig.Inheritance
import ModuleHooks.Tsconfig.Admission

/-!
Which files belong to a configuration, by where they lie. One without lists is for what lies below its
directory, apart from dependencies, if that directory is written in its normal form and is not the one at the
top (`admits_default`): the pattern is made of the directory's text as it is. An entry of the excluded list
without wildcards keeps out all that lies below the place that it denotes, unless the last segment of that
place has a dot in it, and then it keeps out only the file at that place (`admits_excluded`).
-/
namespace ModuleHooks.LoadedTsconfig

open ModuleHooks.Path Glob

/-! ## Patterns of entries -/

/-- The last piece of a text with forward slashes is the last segment of the text. -/
theorem getLast?_splitAt (s : Text) :
    ((Text.splitAt '/' (Text.replaceChar '\\' '/' s)).getLast?).getD [] = lastSegment s := by
  have flat : ∀ c ∈ lastSegment s, isSlash c = false := fun c => flat_of_mem_lastSegment
  have kept : Text.replaceChar '\\' '/' (lastSegment s) = lastSegment s := replaceChar_flat flat
  have alone : Text.splitAt '/' (lastSegment s) = [lastSegment s] :=
    Text.splitAt_of_notMem fun member => nomatch flat '/' member
  have whole : (s.reverse.dropWhile fun c => c != '/' && c != '\\').reverse ++ lastSegment s = s := by
    rw [lastSegment, ← List.reverse_append, List.takeWhile_append_dropWhile, List.reverse_reverse]
  have stops := List.head?_dropWhile_not (fun c => c != '/' && c != '\\') s.reverse
  cases front : s.reverse.dropWhile fun c => c != '/' && c != '\\' with
  | nil =>
    rw [front, List.reverse_nil, List.nil_append] at whole
    have slashes : Text.replaceChar '\\' '/' s = lastSegment s := by rw [← kept, whole]
    rw [slashes, alone]
    rfl
  | cons c rest =>
    rw [front] at stops whole
    have slash : (if c = '\\' then '/' else c) = '/' := by
      by_cases back : c = '\\'
      · exact if_pos back
      · simpa [back] using stops
    have slashes : Text.replaceChar '\\' '/' s =
        Text.replaceChar '\\' '/' rest.reverse ++ '/' :: lastSegment s := by
      calc
        Text.replaceChar '\\' '/' s =
            Text.replaceChar '\\' '/' ((c :: rest).reverse ++ lastSegment s) := by rw [whole]
        _ = _ := by
          unfold Text.replaceChar at kept ⊢
          rw [List.map_append, kept, List.reverse_cons, List.map_append, List.map_singleton, slash,
            List.append_assoc, List.singleton_append]
    rw [slashes, Text.splitAt_append_mark, alone, List.getLast?_concat, Option.getD_some]

theorem isLiteral_replaceChar {s : Text} (plain : IsLiteral s) : IsLiteral (Text.replaceChar '\\' '/' s) := by
  intro c member
  obtain ⟨d, inside, rfl⟩ := List.mem_map.1 member
  split
  · simp [wildcards]
  · exact plain d inside

theorem isLiteral_trimEndOf {s : Text} (plain : IsLiteral s) : IsLiteral (Text.trimEndOf '/' s) := by
  obtain ⟨n, whole, -⟩ := Text.exists_trimEndOf '/' s
  rw [whole] at plain
  exact (isLiteral_append.1 plain).1

/-- What is for everything below a directory is a pattern already. -/
theorem entryPattern_everythingBelow (s : Text) : entryPattern (everythingBelow s) = everythingBelow s := by
  have pieces := Text.splitAt_append_mark '/' s "**/*".toList
  have last : Text.splitAt '/' "**/*".toList = ["**".toList, ['*']] := by decide
  have whole : everythingBelow s = s ++ '/' :: "**/*".toList := rfl
  unfold entryPattern
  rw [whole, pieces, last]
  simp

section

variable {place : Path}

/-- An entry whose last segment has no dot is for what lies below the place. -/
theorem entryPattern_undotted (plain : IsLiteral place.text) (undotted : '.' ∉ lastSegment place.text) :
    entryPattern place.toSlash = everythingBelow (Text.trimEndOf '/' place.toSlash) := by
  have starless : '*' ∉ lastSegment place.text := fun member =>
    plain '*' ((lastSegment_suffix place.text).subset member) (by simp [wildcards])
  have last : ((Text.splitAt '/' place.toSlash).getLast?).getD [] = lastSegment place.text :=
    getLast?_splitAt place.text
  unfold entryPattern
  rw [last]
  simp [starless, undotted]

/-- One whose last segment has a dot is for the place itself. -/
theorem entryPattern_dotted (dotted : '.' ∈ lastSegment place.text) :
    entryPattern place.toSlash = place.toSlash := by
  have last : ((Text.splitAt '/' place.toSlash).getLast?).getD [] = lastSegment place.text :=
    getLast?_splitAt place.text
  unfold entryPattern
  rw [last]
  simp [dotted]

/-- With forward slashes, a text that is closed by a slash is what is left of it without any at its end, and at
least one. -/
theorem exists_slashes {s : Text} (filled : s ≠ []) :
    ∃ n, Text.replaceChar '\\' '/' (slashed s) =
      Text.trimEndOf '/' (Text.replaceChar '\\' '/' s) ++ List.replicate (n + 1) '/' := by
  obtain ⟨n, whole, ends⟩ := Text.exists_trimEndOf '/' (Text.replaceChar '\\' '/' s)
  obtain ⟨init, last, rfl⟩ := (List.eq_nil_or_concat s).resolve_left filled
  rw [List.concat_eq_append] at whole ends ⊢
  by_cases closed : last = '/'
  · subst closed
    have same : slashed (init ++ ['/']) = init ++ ['/'] := by simp [slashed]
    rw [same]
    cases n with
    | zero =>
      rw [List.replicate_zero, List.append_nil] at whole
      rw [← whole] at ends
      exact absurd (by simp [Text.replaceChar]) ends
    | succ n => exact ⟨n, whole⟩
  · have opened : slashed (init ++ [last]) = init ++ [last] ++ ['/'] := by simp [slashed, closed]
    have behind : Text.replaceChar '\\' '/' (init ++ [last] ++ ['/']) =
        Text.replaceChar '\\' '/' (init ++ [last]) ++ ['/'] := by simp [Text.replaceChar]
    refine ⟨n, ?_⟩
    rw [opened, behind, List.replicate_succ', ← List.append_assoc, ← whole]

/-- All that lies below a place matches the pattern of its entry. -/
theorem matchText_of_isBelow {file : Path} (normal : place.normalize = place)
    (absolute : place.isAbsolute = true) (plain : IsLiteral place.text)
    (undotted : '.' ∉ lastSegment place.text) (normalFile : file.normalize = file)
    (below : file.IsBelow place) : matchText (entryPattern place.toSlash) file.toSlash = true := by
  have filled : place.text ≠ [] := by
    intro nothing
    simp [isAbsolute, nothing] at absolute
  obtain ⟨rest, text⟩ := exists_text_of_isBelow normalFile normal absolute below
  obtain ⟨n, slashes⟩ := exists_slashes filled
  rw [entryPattern_undotted plain undotted]
  apply (matchText_below (isLiteral_trimEndOf (isLiteral_replaceChar plain)) _).2
  refine ⟨List.replicate n '/' ++ Text.replaceChar '\\' '/' rest, ?_⟩
  calc
    file.toSlash = Text.replaceChar '\\' '/' (slashed place.text) ++ Text.replaceChar '\\' '/' rest := by
      rw [toSlash, text, Text.replaceChar, List.map_append]
      rfl
    _ = Text.trimEndOf '/' place.toSlash ++
        '/' :: (List.replicate n '/' ++ Text.replaceChar '\\' '/' rest) := by
      rw [slashes, List.replicate_succ, toSlash]
      simp

end

/-! ## Without lists -/

/-- The pattern for everything below a directory covers what goes on behind its text and a slash. -/
theorem covered_everythingBelow {s : Text} (plain : IsLiteral s) (file : Text) :
    covered [everythingBelow s] file = true ↔ ∃ rest, file = s ++ '/' :: rest := by
  rw [covered, List.any_cons, List.any_nil, Bool.or_false, entryPattern_everythingBelow]
  exact matchText_below plain file

section

variable {c : LoadedTsconfig} {file : Path}

/-- What is below a directory, and what the text of a directory says of it. -/
theorem isBelow_iff_text (absolute : c.directory.isAbsolute = true) :
    (∃ rest, file.normalize.text = c.directory.text ++ '/' :: rest) ↔
      (c.directory.normalize = c.directory ∧ c.directory ≠ rootDirectory) ∧
        file.normalize.IsBelow c.directory.normalize := by
  constructor
  · rintro ⟨rest, whole⟩
    obtain ⟨normal, inner, below⟩ := isBelow_of_text (normalize_normalize file) absolute whole
    refine ⟨⟨normal, inner⟩, ?_⟩
    rwa [normal]
  · rintro ⟨⟨normal, inner⟩, below⟩
    rw [normal] at below
    obtain ⟨rest, whole⟩ := exists_text_of_isBelow (normalize_normalize file) normal absolute below
    rw [slashed_of_normal normal absolute inner] at whole
    exact ⟨rest, by rw [whole]; simp⟩

/-- A configuration without lists is for the files below its directory that are no dependencies, if the
directory is written in its normal form and is not the one at the top; otherwise it is for none. -/
theorem admits_default
    (silent : c.config.files = none ∧ c.config.included = none ∧ c.config.excluded = none)
    (absolute : c.path.isAbsolute = true) (plain : IsLiteral c.directory.text)
    (unmarked : '\\' ∉ c.directory.text) (unmarkedFile : '\\' ∉ file.normalize.text) :
    c.admits file = true ↔
      (c.directory.normalize = c.directory ∧ c.directory ≠ rootDirectory) ∧
        file.normalize.IsBelow c.directory.normalize ∧ file.normalize.isInsideDependency = false := by
  obtain ⟨files, included, excluded⟩ := silent
  have inclusions : c.inclusions = [everythingBelow c.directory.text] := by
    rw [LoadedTsconfig.inclusions, files, included, toSlash_of_notMem unmarked]
  have exclusion : c.isExcluded file.normalize.text = file.normalize.isInsideDependency := by
    rw [isExcluded, excluded]
  have admitted : c.admits file = (!file.normalize.isInsideDependency &&
      covered [everythingBelow c.directory.text] file.normalize.text) := by
    rw [admits, toSlash_of_notMem unmarkedFile, files, exclusion, inclusions]
    rfl
  have directory : c.directory.isAbsolute = true := Tsconfig.isAbsolute_directoryOf absolute
  rw [admitted, Bool.and_eq_true, Bool.not_eq_true', covered_everythingBelow plain,
    isBelow_iff_text directory, and_comm, and_assoc]

end

/-- Configurations without anything in them, at the top and in directories. -/
def emptyTree : FileTree :=
  ⟨[["tsconfig.json"], ["p", "x", "tsconfig.json"], ["a[b]", "tsconfig.json"], ["a*", "tsconfig.json"],
      ["a\\b", "tsconfig.json"]].map fun names => (names.map String.toList, .text "\x7b\x7d".toList), []⟩

theorem load_empty {fs : FileSystem} {path : Path}
    (evaluated : ((Tsconfig.loadWithin fs (fs.files.length + 1) [path.normalize] path).bind
      Except.toOption).map (fun c => [c.parents.isNone, c.compilerOptions.isNone, c.files.isNone,
        c.included.isNone, c.excluded.isNone]) = some [true, true, true, true, true]) :
    ((Tsconfig.load fs path).outcome ()).1 = .ok ⟨path, {}⟩ := by
  obtain ⟨⟨parents, options, files, included, excluded⟩, loaded, declared⟩ :=
    Tsconfig.exists_load fs path _ evaluated ()
  simp only [List.cons.injEq, Option.isNone_iff_eq_none] at declared
  obtain ⟨rfl, rfl, rfl, rfl, rfl, -⟩ := declared
  exact loaded

theorem admits_default_inner :
    let c : LoadedTsconfig := ⟨⟨"/p/x/tsconfig.json".toList⟩, {}⟩
    ((Tsconfig.load emptyTree.lexical c.path).outcome ()).1 = .ok c ∧
      c.admits ⟨"/p/x/src/../lib/a.ts".toList⟩ = true ∧
      c.admits ⟨"/p/x/node_modules/m/a.js".toList⟩ = false ∧ c.admits ⟨"/p/xy/a.ts".toList⟩ = false := by
  intro c
  have silent : c.config.files = none ∧ c.config.included = none ∧ c.config.excluded = none :=
    ⟨rfl, rfl, rfl⟩
  have plain : IsLiteral c.directory.text := by decide +kernel
  have inside (file : Path) (unmarked : '\\' ∉ file.normalize.text) :=
    admits_default (c := c) silent (by decide +kernel) plain (by decide +kernel) unmarked
  refine ⟨load_empty (by decide +kernel), ?_, ?_, ?_⟩
  · exact (inside _ (by decide +kernel)).2 (by decide +kernel)
  · exact Bool.eq_false_iff.2 (mt (inside _ (by decide +kernel)).1 (by decide +kernel))
  · exact Bool.eq_false_iff.2 (mt (inside _ (by decide +kernel)).1 (by decide +kernel))

/-- A file below the directory does not belong to the configuration where that directory is the one at the top,
where it is not written in its normal form, and where its name has a bracket in it. One that is not below does
where the name has a star or a backslash in it. -/
theorem admits_default_spelled :
    let empty (path : String) : LoadedTsconfig := ⟨⟨path.toList⟩, {}⟩
    ∀ cf ∈ [("/tsconfig.json", "/a.ts", true), ("/p//x/tsconfig.json", "/p/x/a.ts", true),
        ("/a[b]/tsconfig.json", "/a[b]/a.ts", true), ("/a*/tsconfig.json", "/ab/a.ts", false),
        ("/a\\b/tsconfig.json", "/a/b/a.ts", false)],
      let c := empty cf.1
      let file : Path := ⟨cf.2.1.toList⟩
      ((Tsconfig.load emptyTree.lexical c.path).outcome ()).1 = .ok c ∧
        (file.normalize.IsBelow c.directory.normalize ↔ cf.2.2 = true) ∧
        file.normalize.isInsideDependency = false ∧ c.admits file = !cf.2.2 := by
  intro empty
  simp only [List.forall_mem_cons, List.not_mem_nil, false_imp_iff, implies_true, and_true]
  refine ⟨⟨load_empty (by decide +kernel), ?_⟩, ⟨load_empty (by decide +kernel), ?_⟩,
    ⟨load_empty (by decide +kernel), ?_⟩, ⟨load_empty (by decide +kernel), ?_⟩,
    load_empty (by decide +kernel), ?_⟩ <;> decide +kernel

/-! ## Excluded entries -/

/-- Whether a file is among those that a configuration lists. -/
def lists (c : LoadedTsconfig) (file : Path) : Bool :=
  (c.config.files.getD []).contains file.normalize.toSlash

/-- The configuration without an entry among those that it excludes. -/
def withoutExclusion (c : LoadedTsconfig) (entry : Text) : LoadedTsconfig :=
  { c with config := { c.config with excluded := c.config.excluded.map (·.filter (· != entry)) } }

section

variable {c : LoadedTsconfig} {excluded : List Text} {place file : Path}

/-- An excluded file belongs to a configuration only if it is listed. -/
theorem admits_of_covered (declared : c.config.excluded = some excluded)
    (out : covered excluded file.normalize.toSlash = true) : c.admits file = c.lists file := by
  have excluding : c.isExcluded file.normalize.toSlash = true := by
    rw [isExcluded, declared]
    exact out
  rw [admits, excluding, lists, Bool.not_true, Bool.false_and, Bool.or_false]

/-- What lies below an excluded place is excluded, if the last segment of the place has no dot. -/
theorem admits_of_isBelow (declared : c.config.excluded = some excluded) (member : place.toSlash ∈ excluded)
    (normal : place.normalize = place) (absolute : place.isAbsolute = true) (plain : IsLiteral place.text)
    (undotted : '.' ∉ lastSegment place.text) (below : file.normalize.IsBelow place) :
    c.admits file = c.lists file := by
  have matched := matchText_of_isBelow normal absolute plain undotted (normalize_normalize file) below
  exact admits_of_covered declared (List.any_eq_true.2 ⟨place.toSlash, member, matched⟩)

/-- If it has one, the place itself is excluded, and nothing else by this entry. -/
theorem admits_of_dotted (declared : c.config.excluded = some excluded) (member : place.toSlash ∈ excluded)
    (plain : IsLiteral place.text) (dotted : '.' ∈ lastSegment place.text) :
    c.admits file = if file.normalize.toSlash = place.toSlash then c.lists file
      else (c.withoutExclusion place.toSlash).admits file := by
  have matched : matchText (entryPattern place.toSlash) file.normalize.toSlash = true ↔
      file.normalize.toSlash = place.toSlash := by
    rw [entryPattern_dotted dotted]
    exact matchText_literal (isLiteral_replaceChar plain) _
  split
  case isTrue same =>
    exact admits_of_covered declared (List.any_eq_true.2 ⟨place.toSlash, member, matched.2 same⟩)
  case isFalse other =>
    have alike : covered (excluded.filter (· != place.toSlash)) file.normalize.toSlash =
        covered excluded file.normalize.toSlash := by
      rw [covered, covered, List.any_filter, Bool.eq_iff_iff, List.any_eq_true, List.any_eq_true]
      refine exists_congr fun entry => and_congr_right fun _ => ?_
      rw [Bool.and_eq_true, bne_iff_ne, and_iff_right_iff_imp]
      rintro covers rfl
      exact other (matched.1 covers)
    have excluding : (c.withoutExclusion place.toSlash).isExcluded file.normalize.toSlash =
        c.isExcluded file.normalize.toSlash := by
      rw [isExcluded, isExcluded, withoutExclusion, declared]
      exact alike
    rw [admits, admits, excluding]
    rfl

end

/-- The entries that a loaded configuration excludes are those of the first configuration of its lineage that
declares any, seen from the directory of that one. Let an entry denote an absolute place without wildcards in
its path. If the last segment of the place has no dot, no file below it belongs to the configuration unless it
is listed. If the segment has a dot, the entry is for the file at that place alone. -/
theorem admits_excluded {fs : FileSystem} {path : Path} {c : LoadedTsconfig} {σ : Type} {s : σ}
    (ok : ((Tsconfig.load fs path).outcome s).1 = .ok c) {excluded : List Text}
    (declared : c.config.excluded = some excluded) :
    ∃ lineage d entries, Tsconfig.IsLineage fs path lineage ∧
      lineage.find? (·.config.excluded.isSome) = some d ∧ d.config.excluded = some entries ∧
      excluded = entries.map (Tsconfig.anchor d.directory) ∧
      ∀ entry ∈ entries, ∀ place : Path, place = (d.directory.join ⟨entry⟩).normalize →
        place.isAbsolute = true → IsLiteral place.text →
        ('.' ∉ lastSegment place.text → ∀ file : Path, file.normalize.IsBelow place →
          c.admits file = c.lists file) ∧
        ('.' ∈ lastSegment place.text → ∀ file : Path, c.admits file =
          if file.normalize.toSlash = place.toSlash then c.lists file
          else (c.withoutExclusion place.toSlash).admits file) := by
  obtain ⟨r, within, comes⟩ := Tsconfig.comesTo_load fs path
  rw [(comes.outcome s).1] at ok
  cases r with
  | error e => cases ok
  | ok config =>
    obtain ⟨lineage, known, rfl⟩ := Tsconfig.lineage_of_loadWithin within
    cases ok
    have first : (lineage.findSome? fun d =>
        d.config.excluded.map (·.map (Tsconfig.anchor d.directory))) = some excluded := declared
    obtain ⟨before, d, behind, rfl, found, silent⟩ := List.findSome?_eq_some_iff.1 first
    obtain ⟨entries, written, rfl⟩ := Option.map_eq_some_iff.1 found
    refine ⟨_, d, entries, known, ?_, written, rfl, ?_⟩
    · refine List.find?_eq_some_iff_append.2 ⟨by rw [written]; rfl, before, behind, rfl, ?_⟩
      intro e member
      have undeclared : e.config.excluded = none := Option.map_eq_none_iff.1 (silent e member)
      rw [undeclared]
      rfl
    · rintro entry inside place rfl absolute plain
      have member : (d.directory.join ⟨entry⟩).normalize.toSlash ∈
          entries.map (Tsconfig.anchor d.directory) := List.mem_map_of_mem inside
      constructor
      · intro undotted file below
        exact admits_of_isBelow declared member (normalize_normalize _) absolute plain undotted below
      · intro dotted file
        exact admits_of_dotted declared member plain dotted

/-- A configuration that excludes a directory of which it lists a file. -/
def excludingTree : FileTree :=
  ⟨[(["p".toList, "tsconfig.json".toList],
    .text "\x7b\"files\":[\"dist/keep.ts\"],\"include\":[\"**/*\"],\"exclude\":[\"dist\"]\x7d".toList)], []⟩

theorem admits_excluded_dist :
    let path : Path := ⟨"/p/tsconfig.json".toList⟩
    ∃ c, ((Tsconfig.load excludingTree.lexical path).outcome ()).1 = .ok c ∧
      c.config.excluded = some ["/p/dist".toList] ∧ c.config.files = some ["/p/dist/keep.ts".toList] ∧
      c.admits ⟨"/p/dist/deep/a.ts".toList⟩ = false ∧ c.admits ⟨"/p/dist/keep.ts".toList⟩ = true := by
  intro path
  obtain ⟨config, loaded, seen⟩ := Tsconfig.exists_load excludingTree.lexical path
    (fun c => (c.excluded, c.files))
    (a := (some ["/p/dist".toList], some ["/p/dist/keep.ts".toList])) (by decide +kernel) ()
  obtain ⟨excluded, files⟩ := Prod.mk.inj seen
  obtain ⟨own, parsed, written⟩ := Option.map_eq_some_iff.1
    (show (Tsconfig.own excludingTree.lexical path).toOption.map (fun c => (c.excluded, c.bases)) =
      some (some ["dist".toList], []) by decide +kernel)
  obtain ⟨ownExcluded, ownBases⟩ := Prod.mk.inj written
  have alone : Tsconfig.IsLineage excludingTree.lexical path [⟨path, own⟩] :=
    ⟨own, [], Hooked.eq_ok_of_toOption parsed, ownBases ▸ .nil path, rfl⟩
  obtain ⟨lineage, d, entries, known, first, declared, -, each⟩ := admits_excluded loaded excluded
  obtain rfl := alone.unique known
  obtain rfl : d = ⟨path, own⟩ := (List.mem_singleton.1 (List.mem_of_find?_eq_some first))
  obtain rfl : entries = ["dist".toList] := Option.some.inj (declared.symm.trans ownExcluded)
  have place : (⟨"/p/dist".toList⟩ : Path) =
      (Tsconfig.Declared.directory ⟨path, own⟩ |>.join ⟨"dist".toList⟩).normalize := by
    show _ = ((LoadedTsconfig.directoryOf path).join ⟨"dist".toList⟩).normalize
    decide +kernel
  obtain ⟨inside, -⟩ := each _ List.mem_cons_self _ place (by decide +kernel) (by decide +kernel)
  have out (file : Path) (below : file.normalize.IsBelow ⟨"/p/dist".toList⟩) :=
    inside (by decide +kernel) file below
  refine ⟨_, loaded, excluded, files, ?_, ?_⟩
  · rw [out _ (by decide +kernel), lists, files]
    decide +kernel
  · rw [out _ (by decide +kernel), lists, files]
    decide +kernel

/-- A directory with a dot in its name is not excluded with what is in it. -/
theorem admits_excluded_dotted :
    let tree : FileTree := ⟨[(["p".toList, "tsconfig.json".toList],
      .text "\x7b\"exclude\":[\"dist.old\"]\x7d".toList)], []⟩
    let path : Path := ⟨"/p/tsconfig.json".toList⟩
    let file : Path := ⟨"/p/dist.old/a.ts".toList⟩
    ∃ c, ((Tsconfig.load tree.lexical path).outcome ()).1 = .ok c ∧
      c.config.excluded = some ["/p/dist.old".toList] ∧ file.normalize.IsBelow ⟨"/p/dist.old".toList⟩ ∧
      c.lists file = false ∧ c.admits file = true := by
  intro tree path file
  obtain ⟨config, loaded, seen⟩ := Tsconfig.exists_load tree.lexical path
    (fun c => (c.excluded, lists ⟨path, c⟩ file, admits ⟨path, c⟩ file))
    (a := (some ["/p/dist.old".toList], false, true)) (by decide +kernel) ()
  obtain ⟨excluded, listed, admitted⟩ := by simpa only [Prod.mk.injEq] using seen
  exact ⟨_, loaded, excluded, by decide +kernel, listed, admitted⟩

end ModuleHooks.LoadedTsconfig
