import ModuleHooks.Proofs.Computation
import ModuleHooks.Proofs.Text.Order
import ModuleHooks.Proofs.Workspace.Patterns

/-!
The packages of a workspace. The table is kept in the order of slugs while packages are put into it, and an
entry that is there stays; so of all patterns that offer a slug the first decides (`category?_tableOf`), and
every package that a pattern means is in the table.
-/
namespace ModuleHooks.WorkspaceTable

open Hooked ModuleHooks.Path

/-! ## Putting packages in -/

/-- Slugs stand in order, each once. -/
def IsSorted (packages : List (Text × Text)) : Prop := packages.Pairwise fun a b => Text.order a.1 b.1 = .lt

section

variable {packages : List (Text × Text)} {slug category : Text}

theorem mem_insertSlug {keep : Bool} {entry : Text × Text}
    (member : entry ∈ insertSlug keep slug category packages) :
    entry.1 = slug ∨ entry ∈ packages := by
  induction packages with
  | nil =>
    obtain rfl := List.mem_singleton.1 member
    exact .inl rfl
  | cons first rest ih =>
    obtain ⟨s, c⟩ := first
    unfold insertSlug at member
    split at member
    case h_1 =>
      rcases List.mem_cons.1 member with rfl | there
      · exact .inl rfl
      · exact .inr there
    case h_2 same =>
      rcases List.mem_cons.1 member with rfl | there
      · refine .inl ?_
        rw [Text.order_eq_iff.1 same]
        split <;> rfl
      · exact .inr (List.mem_cons_of_mem _ there)
    case h_3 =>
      rcases List.mem_cons.1 member with rfl | there
      · exact .inr List.mem_cons_self
      · exact (ih there).imp_right (List.mem_cons_of_mem _)

/-- One more package leaves the slugs in order. -/
theorem IsSorted.insertSlug (sorted : IsSorted packages) (keep : Bool) (slug category : Text) :
    IsSorted (insertSlug keep slug category packages) := by
  induction packages with
  | nil => exact List.pairwise_singleton _ _
  | cons first rest ih =>
    obtain ⟨s, c⟩ := first
    obtain ⟨below, others⟩ := List.pairwise_cons.1 sorted
    unfold WorkspaceTable.insertSlug
    split
    case h_1 less =>
      refine List.pairwise_cons.2 ⟨fun entry member => ?_, sorted⟩
      rcases List.mem_cons.1 member with rfl | there
      · exact less
      · exact Text.order_lt_trans less (below entry there)
    case h_2 same =>
      refine List.pairwise_cons.2 ⟨fun entry member => ?_, others⟩
      split
      · exact below entry member
      · rw [Text.order_eq_iff.1 same]
        exact below entry member
    case h_3 more =>
      refine List.pairwise_cons.2 ⟨fun entry member => ?_, ih others⟩
      rcases mem_insertSlug member with same | there
      · rw [same, ← Text.order_swap, more]
        rfl
      · exact below entry there

/-- A slug that is new gets its category, and one that is there keeps what it has. -/
theorem lookup_insertSlug (sorted : IsSorted packages) (slug category name : Text) :
    (insertSlug true slug category packages).lookup name = (packages ++ [(slug, category)]).lookup name := by
  induction packages with
  | nil => rfl
  | cons first rest ih =>
    obtain ⟨s, c⟩ := first
    obtain ⟨below, others⟩ := List.pairwise_cons.1 sorted
    unfold insertSlug
    split
    case h_1 less =>
      have new : ((s, c) :: rest).lookup slug = none := by
        refine List.lookup_eq_none_iff.2 fun entry member => bne_iff_ne.2 fun same => ?_
        have after : Text.order slug entry.1 = .lt := by
          rcases List.mem_cons.1 member with rfl | there
          · exact less
          · exact Text.order_lt_trans less (below entry there)
        rw [← same, Text.order_eq_iff.2 rfl] at after
        exact nomatch after
      by_cases same : name = slug
      · rw [same, List.lookup_cons_self, List.lookup_append, new, Option.none_or, List.lookup_cons_self]
      · rw [List.lookup_cons, beq_eq_false_iff_ne.2 same, List.lookup_append, List.lookup_singleton,
          beq_eq_false_iff_ne.2 same]
        simp
    case h_2 same =>
      obtain rfl := Text.order_eq_iff.1 same
      rw [if_pos rfl, List.cons_append, List.lookup_cons, List.lookup_cons]
      by_cases found : name = slug
      · simp [found]
      · simp [beq_eq_false_iff_ne.2 found, List.lookup_append]
    case h_3 =>
      rw [List.cons_append, List.lookup_cons, List.lookup_cons, ih others]

/-- Packages that are put in one after the other leave the slugs in order, and each slug has the category that
it had or was given first. -/
theorem foldl_insertSlug (found : List (Text × Text)) (sorted : IsSorted packages) :
    let table := found.foldl (fun table (slug, category) => insertSlug true slug category table) packages
    IsSorted table ∧ ∀ name, table.lookup name = (packages ++ found).lookup name := by
  induction found generalizing packages with
  | nil => exact ⟨sorted, fun name => by simp⟩
  | cons entry rest ih =>
    obtain ⟨slug, category⟩ := entry
    obtain ⟨sortedToo, lookups⟩ := ih (sorted.insertSlug true slug category)
    refine ⟨sortedToo, fun name => (lookups name).trans ?_⟩
    rw [List.lookup_append, lookup_insertSlug sorted, ← List.lookup_append, List.append_assoc]
    rfl

end

/-! ## The table of patterns -/

section

variable {fs : FileSystem} {root : Path} {patterns : List Text} {pattern slug category : Text}

/-- The packages that patterns offer, in order. -/
def packagesOf (fs : FileSystem) (root : Path) (patterns : List Text) : List (Text × Text) :=
  (patterns.filter (!isNegative ·)).flatMap (expandPattern fs root)

/-- The table of patterns. -/
def tableOf (fs : FileSystem) (root : Path) (patterns : List Text) : WorkspaceTable :=
  ⟨root, (packagesOf fs root patterns).foldl
    (fun table (slug, category) => insertSlug true slug category table) []⟩

theorem lookup_expandPattern (regular : fs.IsRegular) :
    (expandPattern fs root pattern).lookup slug = some category ↔ Offers fs root pattern slug category := by
  rw [← mem_expandPattern_iff regular]
  constructor
  · intro found
    obtain ⟨front, back, whole, -⟩ := List.lookup_eq_some_iff.1 found
    rw [whole]
    simp
  · intro member
    obtain ⟨other, found⟩ := Option.isSome_iff_exists.1
      (List.lookup_isSome_iff.2 ⟨_, member, beq_self_eq_true slug⟩)
    obtain ⟨front, back, whole, -⟩ := List.lookup_eq_some_iff.1 found
    have offers := (mem_expandPattern_iff regular).1 member
    have offersToo : Offers fs root pattern slug other :=
      (mem_expandPattern_iff regular).1 (by rw [whole]; simp)
    rw [found, offers.category_unique offersToo]

theorem lookup_expandPattern_eq_none (regular : fs.IsRegular) :
    (expandPattern fs root pattern).lookup slug = none ↔ ∀ category, ¬Offers fs root pattern slug category := by
  rw [Option.eq_none_iff_forall_ne_some]
  simp only [ne_eq, lookup_expandPattern regular]

theorem lookup_flatMap {α : Type} (f : α → List (Text × Text)) (l : List α) (name : Text) :
    (l.flatMap f).lookup name = l.findSome? fun a => (f a).lookup name := by
  induction l with
  | nil => rfl
  | cons a rest ih =>
    rw [List.flatMap_cons, List.lookup_append, List.findSome?_cons, ih]
    cases (f a).lookup name <;> rfl

/-- A slug has the category that the first pattern with such a package gives it. -/
theorem category?_eq_findSome? (slug : Text) :
    (tableOf fs root patterns).category? slug = (patterns.filter (!isNegative ·)).findSome? fun pattern =>
      (expandPattern fs root pattern).lookup slug := by
  rw [← lookup_flatMap]
  exact (foldl_insertSlug _ List.Pairwise.nil).2 slug

/-- The first pattern that offers a slug gives it its category. -/
theorem category?_tableOf (regular : fs.IsRegular) :
    (tableOf fs root patterns).category? slug = some category ↔
      ∃ before pattern after, patterns.filter (!isNegative ·) = before ++ pattern :: after ∧
        Offers fs root pattern slug category ∧
          ∀ earlier ∈ before, ∀ other, ¬Offers fs root earlier slug other := by
  rw [category?_eq_findSome?, List.findSome?_eq_some_iff]
  simp only [lookup_expandPattern regular, lookup_expandPattern_eq_none regular]

theorem exists_category (regular : fs.IsRegular) (declared : pattern ∈ patterns)
    (positive : isNegative pattern = false) (offers : Offers fs root pattern slug category) :
    ((tableOf fs root patterns).category? slug).isSome = true := by
  rw [category?_eq_findSome?, List.findSome?_isSome_iff]
  refine ⟨pattern, List.mem_filter.2 ⟨declared, by simp [positive]⟩, ?_⟩
  rw [(lookup_expandPattern regular).2 offers]
  rfl

theorem hasManifest_of_directory? (regular : fs.IsRegular) {directory : Path}
    (found : (tableOf fs root patterns).directory? slug = some directory) : hasManifest fs directory = true := by
  obtain ⟨category, recorded, rfl⟩ := Option.map_eq_some_iff.1 found
  obtain ⟨before, pattern, after, -, offers, -⟩ := (category?_tableOf regular).1 recorded
  exact offers.hasManifest regular

end

/-! ## Discovery -/

/-- A value has a list or an object where workspaces are declared. -/
def DeclaresWorkspaces (value : Json) : Prop :=
  (∃ items, value.member? workspacesField = some (.array items)) ∨
    ∃ members, value.member? workspacesField = some (.object members)

theorem declaredPatterns?_isSome {value : Json} :
    (declaredPatterns? value).isSome = true ↔ DeclaresWorkspaces value := by
  unfold declaredPatterns? DeclaresWorkspaces
  split
  case h_1 items same => simp [same]
  case h_2 members same =>
    refine iff_of_true ?_ (.inr ⟨members, same⟩)
    split <;> rfl
  case h_3 other otherToo =>
    refine iff_of_false Bool.false_ne_true ?_
    rintro (⟨items, same⟩ | ⟨members, same⟩)
    · exact other items same
    · exact otherToo members same

/-- The patterns of the workspace at a root: those of its description, or of its manifest if there is no
description. -/
inductive Declares (fs : FileSystem) (root : Path) : List Text → Prop
  | description {source : Text} (there : fs.readText (root.child descriptionName) = .ok source) :
      Declares fs root (PackageList.parse source)
  | manifest {source : Text} {value : Json} {patterns : List Text}
      (alone : fs.readText (root.child descriptionName) = .error .missing)
      (there : fs.readText (Manifest.pathIn root) = .ok source) (parsed : Json.parse? source = some value)
      (declared : declaredPatterns? value = some patterns) : Declares fs root patterns

section

variable {σ : Type} {fs : FileSystem} {root path : Path} {t u : Traced σ}

theorem readOptional_ok {read : Option Text} (ok : (Hooked.readOptional fs path).runFrom t = (.ok read, u)) :
    (∃ source, fs.readText path = .ok source ∧ read = some source) ∨
      fs.readText path = .error .missing ∧ read = none := by
  obtain ⟨answer, v, asked, ok⟩ := exists_of_runFrom_bind ok
  obtain rfl : fs.readText path = answer := Except.ok.inj (congrArg Prod.fst asked)
  split at ok
  case h_1 source there => exact .inl ⟨source, there, (Except.ok.inj (congrArg Prod.fst ok)).symm⟩
  case h_2 missing => exact .inr ⟨missing, (Except.ok.inj (congrArg Prod.fst ok)).symm⟩
  case h_3 => exact nomatch congrArg Prod.fst ok

/-- Patterns that are found are declared, and where none are found there is no description and no manifest that
declares a workspace. -/
theorem patterns?_ok {found : Option (List Text)} (ok : (patterns? fs root).runFrom t = (.ok found, u)) :
    (∃ patterns, Declares fs root patterns ∧ found = some patterns) ∨
      fs.readText (root.child descriptionName) = .error .missing ∧
        (¬∃ source value, fs.readText (Manifest.pathIn root) = .ok source ∧ Json.parse? source = some value ∧
          DeclaresWorkspaces value) ∧ found = none := by
  obtain ⟨description, v, read, ok⟩ := exists_of_runFrom_bind ok
  rcases readOptional_ok read with ⟨source, there, rfl⟩ | ⟨alone, rfl⟩
  · exact .inl ⟨_, .description there, (Except.ok.inj (congrArg Prod.fst ok)).symm⟩
  obtain ⟨manifest, w, readToo, ok⟩ := exists_of_runFrom_bind ok
  rcases readOptional_ok readToo with ⟨source, there, rfl⟩ | ⟨missing, rfl⟩
  · dsimp only at ok
    split at ok
    case h_1 => exact nomatch congrArg Prod.fst ok
    case h_2 value parsed =>
      obtain rfl : declaredPatterns? value = found := Except.ok.inj (congrArg Prod.fst ok)
      cases declared : declaredPatterns? value with
      | some patterns => exact .inl ⟨patterns, .manifest alone there parsed declared, rfl⟩
      | none =>
        refine .inr ⟨alone, ?_, rfl⟩
        rintro ⟨text, json, thereToo, parsedToo, declares⟩
        obtain rfl : source = text := Except.ok.inj (there.symm.trans thereToo)
        obtain rfl : value = json := Option.some.inj (parsed.symm.trans parsedToo)
        have isSome := declaredPatterns?_isSome.2 declares
        rw [declared] at isSome
        exact nomatch isSome
  · refine .inr ⟨alone, ?_, (Except.ok.inj (congrArg Prod.fst ok)).symm⟩
    rintro ⟨text, json, there, -⟩
    exact nomatch missing.symm.trans there

/-- A discovery that succeeds gives the table of the patterns that are declared. -/
theorem discover_ok {found : Option WorkspaceTable} (ok : (discover fs root).runFrom t = (.ok found, u)) :
    (∃ patterns, Declares fs root patterns ∧ found = some (tableOf fs root patterns)) ∨
      fs.readText (root.child descriptionName) = .error .missing ∧
        (¬∃ source value, fs.readText (Manifest.pathIn root) = .ok source ∧ Json.parse? source = some value ∧
          DeclaresWorkspaces value) ∧ found = none := by
  obtain ⟨read, v, patterns, ok⟩ := exists_of_runFrom_bind ok
  rcases patterns?_ok patterns with ⟨list, declares, rfl⟩ | ⟨alone, undeclared, rfl⟩
  · exact .inl ⟨list, declares, (Except.ok.inj (congrArg Prod.fst ok)).symm⟩
  · exact .inr ⟨alone, undeclared, (Except.ok.inj (congrArg Prod.fst ok)).symm⟩

/-- Declared patterns are those of a description or of a manifest that declares a workspace. -/
theorem Declares.isDeclared {patterns : List Text} (declares : Declares fs root patterns) :
    fs.readText (root.child descriptionName) ≠ .error .missing ∨
      ∃ source value, fs.readText (Manifest.pathIn root) = .ok source ∧ Json.parse? source = some value ∧
        DeclaresWorkspaces value := by
  cases declares with
  | description there => exact .inl fun missing => nomatch there.symm.trans missing
  | manifest _ there parsed declared =>
    exact .inr ⟨_, _, there, parsed, declaredPatterns?_isSome.1 (by rw [declared]; rfl)⟩

end

/-- The workspace at a root, when it is discovered over paths and listings as on a disk. There is none exactly
if there is no description and no manifest with a list or an object of workspaces. Otherwise, of the patterns
that are declared, those that take packages out apart: every slug has its manifest in the directory of the
table, every package that a pattern means has its slug, the first pattern that offers a slug gives the category,
and the slugs stand in strictly increasing order. -/
theorem discover_table {σ : Type} {fs : FileSystem} (regular : fs.IsRegular) (root : Path) (s : σ)
    (found : Option WorkspaceTable) (ok : ((discover fs root).outcome s).1 = .ok found) :
    (found = none ↔ fs.readText (root.child descriptionName) = .error .missing ∧
      ¬∃ source value, fs.readText (Manifest.pathIn root) = .ok source ∧ Json.parse? source = some value ∧
        DeclaresWorkspaces value) ∧
    ∀ table, found = some table → table.root = root ∧ ∃ patterns, Declares fs root patterns ∧
      (∀ slug directory, table.directory? slug = some directory →
        fs.isFile (Manifest.pathIn directory) = true) ∧
      (∀ pattern ∈ patterns, isNegative pattern = false → ∀ slug, Means fs root pattern slug →
        (table.category? slug).isSome = true) ∧
      (∀ slug category, table.category? slug = some category ↔
        ∃ before pattern after, patterns.filter (!isNegative ·) = before ++ pattern :: after ∧
          Offers fs root pattern slug category ∧
          ∀ earlier ∈ before, ∀ other, ¬Offers fs root earlier slug other) ∧
      table.packages.Pairwise fun a b => Text.order a.1 b.1 = .lt := by
  rcases discover_ok (Prod.ext ok rfl) with ⟨patterns, declares, rfl⟩ | ⟨alone, undeclared, rfl⟩
  · refine ⟨iff_of_false nofun ?_, ?_⟩
    · rintro ⟨alone, undeclared⟩
      exact declares.isDeclared.elim (fun described => described alone) undeclared
    · rintro table same
      obtain rfl := Option.some.inj same
      refine ⟨rfl, patterns, declares, fun slug directory => hasManifest_of_directory? regular, ?_,
        fun slug category => category?_tableOf regular, (foldl_insertSlug _ List.Pairwise.nil).1⟩
      intro pattern declared positive slug means
      obtain ⟨category, offers⟩ := means.exists_offers regular
      exact exists_category regular declared positive offers
  · exact ⟨iff_of_true rfl ⟨alone, undeclared⟩, nofun⟩

/-! ## Workspaces -/

/-- A repository whose manifest declares patterns, written in JSON, and that has packages at these places. -/
def workspaceTree (patterns : Text) (packages : List (List Text)) : FileTree :=
  ⟨(["repo".toList, "package.json".toList], .text ("\x7b\"workspaces\":[".toList ++ patterns ++ "]\x7d".toList)) ::
    packages.map fun place => ("repo".toList :: place ++ ["package.json".toList], .text "\x7b\x7d".toList), []⟩

def repository : Path := ⟨"/repo".toList⟩

/-- Patterns in several spellings, two of which offer one slug. -/
def spelledTree : FileTree :=
  workspaceTree "\"!a\", \"./apps/*\", \"tools//cli\", \"libs/**/\", \"*\"".toList
    [["apps".toList, "web".toList], ["libs".toList, "web".toList], ["tools".toList, "cli".toList]]

theorem means_spelledTree :
    Means spelledTree.lexical repository "./apps/*".toList "web".toList ∧
      Means spelledTree.lexical repository "tools//cli".toList "cli".toList := by
  have known : "/*".toList ∈ starredEnds := by decide
  have written : Text.trimEndOf '/' "./apps/*".toList = "./apps".toList ++ "/*".toList := by decide
  constructor
  · exact .member known written (by decide) (by decide) (by decide +kernel) (by decide +kernel) (by decide)
      (by decide +kernel) (by decide +kernel)
  · exact .named (by decide) (by decide) (by decide) (by decide +kernel)

theorem discover_table_spelled :
    let fs := spelledTree.lexical
    let table : WorkspaceTable :=
      ⟨repository, [("cli".toList, "tools".toList), ("web".toList, "apps".toList)]⟩
    fs.IsRegular ∧ ((discover fs repository).outcome ()).1 = .ok (some table) ∧
      ∃ patterns, Declares fs repository patterns ∧
        (∀ slug directory, table.directory? slug = some directory →
          fs.isFile (Manifest.pathIn directory) = true) ∧
        (∀ pattern ∈ patterns, isNegative pattern = false → ∀ slug, Means fs repository pattern slug →
          (table.category? slug).isSome = true) ∧
        (Means fs repository "./apps/*".toList "web".toList ∧
          Means fs repository "tools//cli".toList "cli".toList) ∧
        table.packages.Pairwise fun a b => Text.order a.1 b.1 = .lt := by
  intro fs table
  have regular : fs.IsRegular := FileTree.lexical_isRegular (by decide)
  have ok : ((discover fs repository).outcome ()).1 = .ok (some table) :=
    eq_ok_of_toOption (by decide +kernel)
  obtain ⟨-, tables⟩ := discover_table regular repository () (some table) ok
  obtain ⟨-, patterns, declares, sound, complete, -, sorted⟩ := tables table rfl
  exact ⟨regular, ok, patterns, declares, sound, complete, means_spelledTree, sorted⟩

/-- Two patterns that do not mean what they are written with. Without the dot in front one is nothing but its
star, and the other starts at the root. -/
theorem discover_unmeant :
    let alone := (workspaceTree "\"./*\"".toList [["web".toList]]).lexical
    let shifted := (workspaceTree "\".//apps/*\"".toList [["apps".toList, "web".toList]]).lexical
    let here := (repository.child ".".toList).child "web".toList
    let apps := (repository.child ".//apps".toList).child "web".toList
    (Declares alone repository [".".toList ++ "/*".toList] ∧ alone.isDirectory here = true ∧
      hasManifest alone here = true ∧
      ((discover alone repository).outcome ()).1 = .ok (some ⟨repository, []⟩)) ∧
    Declares shifted repository [".//apps".toList ++ "/*".toList] ∧ shifted.isDirectory apps = true ∧
      hasManifest shifted apps = true ∧
      ((discover shifted repository).outcome ()).1 = .ok (some ⟨repository, []⟩) := by
  intro alone shifted here apps
  have declares (patterns : Text) (packages : List (List Text)) (list : List Text)
      (declared : (Json.parse? ("\x7b\"workspaces\":[".toList ++ patterns ++ "]\x7d".toList)).bind
        declaredPatterns? = some list) (missing : (workspaceTree patterns packages).lexical.readText
          (repository.child descriptionName) = .error .missing) :
      Declares (workspaceTree patterns packages).lexical repository list := by
    obtain ⟨value, parsed, declared⟩ := Option.bind_eq_some_iff.1 declared
    exact .manifest missing rfl parsed declared
  refine ⟨⟨declares _ _ _ (by decide +kernel) rfl, by decide +kernel, by decide +kernel, ?_⟩,
    declares _ _ _ (by decide +kernel) rfl, by decide +kernel, by decide +kernel, ?_⟩
  · exact eq_ok_of_toOption (by decide +kernel)
  · exact eq_ok_of_toOption (by decide +kernel)

end ModuleHooks.WorkspaceTable
