import ModuleHooks.Proofs.Path.Memo
import ModuleHooks.Proofs.Path.Normal
import ModuleHooks.Proofs.Tsconfig.Loading
import ModuleHooks.FileSystem.Tree
import ModuleHooks.Tsconfig.Cache

/-!
What configurations a cache answers with, after any history of questions. Values are remembered under
the components of paths, and a configuration keeps the text of the path it was loaded from; so a cache
answers like an empty one as long as no configuration is looked for in two spellings (`answers_alone`).
That is so in particular when all the paths that it is asked about are normal
(`isSpelledOnce_of_normal`).
-/
namespace ModuleHooks.TsconfigCache

open Hooked

/-- A question to a cache. -/
inductive Question
  | load (path : Path)
  | nearest (directory : Path)
  | options (file : Path)

/-- An answer of a cache. -/
inductive Answer
  | loaded (config : LoadedTsconfig)
  | nearest (config : Option LoadedTsconfig)
  | options (options : Option CompilerOptions)

/-- The places of the configurations that may govern a directory, the nearest first. -/
def placesAbove (directory : Path) : List Path := directory.ancestors.map (·.child Tsconfig.fileName)

namespace Question

/-- The path that a question is about. -/
def path : Question → Path
  | load path => path
  | nearest directory => directory
  | options file => file

/-- The places at which a question looks for a configuration. -/
def places : Question → List Path
  | load path => [path]
  | nearest directory => placesAbove directory
  | options file => placesAbove (LoadedTsconfig.directoryOf file)

/-- Puts a question to a cache. -/
def ask (fs : FileSystem) (fallback : Option LoadedTsconfig) : Question → Hooked TsconfigCache Answer
  | load path => return .loaded (← TsconfigCache.load fs path)
  | nearest directory => return .nearest (← TsconfigCache.nearest fs directory)
  | options file => return .options (← optionsFor fs fallback file)

end Question

/-- What a cache answers to one question after the other, failures included. -/
def answers (fs : FileSystem) (fallback : Option LoadedTsconfig) :
    List Question → TsconfigCache → List (Except HookError Answer)
  | [], _ => []
  | q :: questions, cache =>
    ((q.ask fs fallback).outcome cache).1 ::
      answers fs fallback questions ((q.ask fs fallback).outcome cache).2.state

/-- No path is spelled in two ways. -/
def IsSpelledOnce (paths : List Path) : Prop :=
  ∀ p ∈ paths, ∀ q ∈ paths, p.components = q.components → p = q

instance (paths : List Path) : Decidable (IsSpelledOnce paths) := by
  unfold IsSpelledOnce
  infer_instance

/-- What a cache remembers under a path was found for a path with the same components, whose places are
among these. -/
structure Remembers (fs : FileSystem) (places : List Path) (cache : TsconfigCache) : Prop where
  byPath : ∀ p c, cache.byPath.get? p = some c →
    ∃ q ∈ places, q.components = p.components ∧ (Tsconfig.load fs q).result = .ok c
  nearest : ∀ d found, cache.nearestByDirectory.get? d = some found →
    ∃ e : Path, e.components = d.components ∧ placesAbove e ⊆ places ∧
      (placesAbove e).find? fs.isFile = found

variable {fs : FileSystem} {places : List Path} {cache : TsconfigCache}

theorem remembers_empty : Remembers fs places {} where
  byPath _ _ known := nomatch known
  nearest _ _ known := nomatch known

/-! ## Places -/

theorem components_place (directory : Path) : (directory.child Tsconfig.fileName).components =
    directory.components ++ [.name Tsconfig.fileName] :=
  Path.components_child directory (by decide) (by decide) (by decide)

theorem placesAbove_top {d : Path} (top : d.parent? = none) :
    placesAbove d = [d.child Tsconfig.fileName] := by
  rw [placesAbove, Path.ancestors_top top, List.map_singleton]

theorem placesAbove_below {d above : Path} (found : d.parent? = some above) :
    placesAbove d = d.child Tsconfig.fileName :: placesAbove above := by
  rw [placesAbove, Path.ancestors_below found, List.map_cons, placesAbove]

/-- Two spellings of a directory have the same places, if no place is spelled in two ways. -/
theorem placesAbove_eq (once : IsSpelledOnce places) {d e : Path} (same : d.components = e.components)
    (inside : placesAbove d ⊆ places) (insideToo : placesAbove e ⊆ places) :
    placesAbove d = placesAbove e := by
  have first {d e : Path} (same : d.components = e.components)
      (inside : d.child Tsconfig.fileName ∈ places) (insideToo : e.child Tsconfig.fileName ∈ places) :
      d.child Tsconfig.fileName = e.child Tsconfig.fileName :=
    once _ inside _ insideToo (by rw [components_place, components_place, same])
  induction d using Path.above_induction generalizing e with
  | top d top =>
    obtain ⟨-, topToo⟩ | ⟨above, -, found, -⟩ := Path.parent?_congr same
    · rw [placesAbove_top top] at inside ⊢
      rw [placesAbove_top topToo] at insideToo ⊢
      rw [first same (inside (by simp)) (insideToo (by simp))]
    · exact nomatch top.symm.trans found
  | below d above found ih =>
    obtain ⟨top, -⟩ | ⟨aboveToo, aboveOther, foundToo, foundOther, sameAbove⟩ := Path.parent?_congr same
    · exact nomatch top.symm.trans found
    · obtain rfl : above = aboveToo := Option.some.inj (found.symm.trans foundToo)
      rw [placesAbove_below found] at inside ⊢
      rw [placesAbove_below foundOther] at insideToo ⊢
      obtain ⟨here, rest⟩ := List.cons_subset.1 inside
      obtain ⟨hereToo, restToo⟩ := List.cons_subset.1 insideToo
      rw [first same here hereToo, ih sameAbove rest restToo]

/-- Normal paths lead to places in one spelling each. -/
theorem isSpelledOnce_of_normal {questions : List Question}
    (normal : ∀ q ∈ questions, q.path.normalize = q.path) :
    IsSpelledOnce (questions.flatMap Question.places) := by
  have above {d : Path} (normal : d.normalize = d) : ∀ p ∈ placesAbove d, p.normalize = p := by
    intro p member
    obtain ⟨e, above, rfl⟩ := List.mem_map.1 member
    exact Path.normalize_child (Path.normalize_of_mem_ancestors normal above)
      ⟨by decide, by decide, by decide⟩
  have directory {file : Path} (normal : file.normalize = file) :
      (LoadedTsconfig.directoryOf file).normalize = LoadedTsconfig.directoryOf file := by
    unfold LoadedTsconfig.directoryOf
    cases found : file.parent? with
    | none => rfl
    | some d => exact Path.normalize_parent? normal found
  have each : ∀ p ∈ questions.flatMap Question.places, p.normalize = p := by
    intro p member
    obtain ⟨q, asked, place⟩ := List.mem_flatMap.1 member
    cases q with
    | load path => exact List.mem_singleton.1 place ▸ normal _ asked
    | nearest d => exact above (normal _ asked) p place
    | options file => exact above (directory (normal _ asked)) p place
  intro p member q memberToo same
  rw [← each p member, ← each q memberToo, Path.normalize_congr same]

/-! ## Looking for the nearest -/

/-- A search through directories finds the first place that is a file, and the places of each directory
that it looked at are these places with the same first file. -/
def Searched (fs : FileSystem) (places : List Path) (directories : List Path)
    (outcome : Option Path × List Path) : Prop :=
  outcome.1 = (directories.map (·.child Tsconfig.fileName)).find? fs.isFile ∧
    ∀ d ∈ outcome.2, placesAbove d ⊆ places ∧ (placesAbove d).find? fs.isFile = outcome.1

theorem searched_cons (once : IsSpelledOnce places) (remembers : Remembers fs places cache) {d : Path}
    {above : List Path} (inside : placesAbove d ⊆ places) (whole : d.ancestors = d :: above)
    (rest : Searched fs places above (search fs cache.nearestByDirectory above)) :
    Searched fs places (d :: above) (search fs cache.nearestByDirectory (d :: above)) := by
  have all : placesAbove d = (d :: above).map (·.child Tsconfig.fileName) := by rw [placesAbove, whole]
  unfold Searched
  rw [← all]
  unfold search
  cases known : cache.nearestByDirectory.get? d with
  | some found =>
    obtain ⟨e, same, insideToo, first⟩ := remembers.nearest d found known
    rw [placesAbove_eq once same insideToo inside] at first
    exact ⟨first.symm, by simp⟩
  | none =>
    by_cases file : fs.isFile (d.child Tsconfig.fileName) = true
    · have first : (placesAbove d).find? fs.isFile = some (d.child Tsconfig.fileName) := by
        rw [all, List.map_cons, List.find?_cons_of_pos file]
      simp only [if_pos file]
      exact ⟨first.symm, List.forall_mem_singleton.2 ⟨inside, first⟩⟩
    · have first : (placesAbove d).find? fs.isFile = (search fs cache.nearestByDirectory above).1 := by
        rw [all, List.map_cons, List.find?_cons_of_neg file, rest.1]
      simp only [if_neg file]
      exact ⟨first.symm, List.forall_mem_cons.2 ⟨⟨inside, first⟩, rest.2⟩⟩

/-- What is remembered does not change what a search finds. -/
theorem searched_ancestors (once : IsSpelledOnce places) (remembers : Remembers fs places cache)
    {d : Path} (inside : placesAbove d ⊆ places) :
    Searched fs places d.ancestors (search fs cache.nearestByDirectory d.ancestors) := by
  induction d using Path.above_induction with
  | top d top =>
    have whole := Path.ancestors_top top
    rw [whole]
    exact searched_cons once remembers inside whole ⟨rfl, by simp [search]⟩
  | below d above found ih =>
    have whole := Path.ancestors_below found
    rw [placesAbove_below found] at inside
    rw [whole]
    refine searched_cons once remembers ?_ whole (ih (List.cons_subset.1 inside).2)
    rwa [placesAbove_below found]

/-- A directory that was searched from is known. -/
theorem search_looked (fs : FileSystem) (known : PathMemo (Option Path)) (d : Path) :
    (((search fs known d.ancestors).2.foldl (fun m e => m.insertNew e (search fs known d.ancestors).1)
      known).get? d).isSome = true := by
  obtain ⟨above, whole⟩ := Path.exists_ancestors d
  rw [whole]
  unfold search
  cases before : known.get? d with
  | some found => simp [before]
  | none =>
    have learned (rest : List Path) (found : Option Path) :
        (((d :: rest).foldl (fun m e => m.insertNew e found) known).get? d).isSome = true := by
      have new : (known.insertNew d found).get? d = some found := by
        rw [PathMemo.get?_insertNew, before, Option.none_or, if_pos rfl]
      rw [List.foldl_cons, PathMemo.le_foldl_insertNew rest _ found d found new, Option.isSome_some]
    by_cases file : fs.isFile (d.child Tsconfig.fileName) = true
    · simp only [if_pos file]
      exact learned [] _
    · simp only [if_neg file]
      exact learned _ _

/-! ## One question -/

/-- From every cache that remembers what is found at these places, a computation comes to one result, and
leaves such a cache with all that it knew about directories. -/
def Settles (fs : FileSystem) (places : List Path) {α : Type} (x : Hooked TsconfigCache α)
    (r : Except HookError α) : Prop :=
  ∀ t : Traced TsconfigCache, Remembers fs places t.state →
    ∃ u, x.runFrom t = (r, u) ∧ Remembers fs places u.state ∧
      t.state.nearestByDirectory.Le u.state.nearestByDirectory

theorem settles_pure {α : Type} (a : α) : Settles fs places (pure a) (.ok a) :=
  fun t remembers => ⟨t, rfl, remembers, .refl _⟩

theorem Settles.bind {α β : Type} {x : Hooked TsconfigCache α} {f : α → Hooked TsconfigCache β} {a : α}
    {r : Except HookError β} (first : Settles fs places x (.ok a)) (rest : Settles fs places (f a) r) :
    Settles fs places (x >>= f) r := by
  intro t remembers
  obtain ⟨u, ran, remembers, more⟩ := first t remembers
  obtain ⟨v, ranRest, remembers, most⟩ := rest u remembers
  exact ⟨v, (runFrom_bind_ok f ran).trans ranRest, remembers, more.trans most⟩

theorem Settles.bind_error {α β : Type} {x : Hooked TsconfigCache α} {f : α → Hooked TsconfigCache β}
    {e : HookError} (first : Settles fs places x (.error e)) : Settles fs places (x >>= f) (.error e) := by
  intro t remembers
  obtain ⟨u, ran, left⟩ := first t remembers
  exact ⟨u, runFrom_bind_error f ran, left⟩

/-- What is done with a result is done with each of its values. -/
theorem Settles.bind_map {α β : Type} {x : Hooked TsconfigCache α} {f : α → Hooked TsconfigCache β}
    {r : Except HookError α} {g : α → β} (first : Settles fs places x r)
    (rest : ∀ a, r = .ok a → Settles fs places (f a) (.ok (g a))) :
    Settles fs places (x >>= f) (r.map g) := by
  cases r with
  | error e => exact first.bind_error
  | ok a => exact first.bind (rest a rfl)

/-- Remembering what was found for a place. -/
theorem Remembers.loaded (remembers : Remembers fs places cache) {path : Path} {c : LoadedTsconfig}
    (inside : path ∈ places) (found : (Tsconfig.load fs path).result = .ok c) :
    Remembers fs places { cache with byPath := cache.byPath.insertNew path c } where
  nearest := remembers.nearest
  byPath p c' known := by
    obtain before | ⟨same, rfl⟩ := PathMemo.get?_insertNew_some known
    · exact remembers.byPath p c' before
    · exact ⟨path, inside, same.symm, found⟩

/-- Remembering what a search found for the directories that it looked at. -/
theorem Remembers.searched (remembers : Remembers fs places cache) {directories : List Path}
    {outcome : Option Path × List Path} (searched : Searched fs places directories outcome) :
    Remembers fs places { cache with
      nearestByDirectory :=
        outcome.2.foldl (fun m d => m.insertNew d outcome.1) cache.nearestByDirectory } where
  byPath := remembers.byPath
  nearest d found known := by
    obtain before | ⟨rfl, e, looked, same⟩ := PathMemo.get?_foldl_insertNew outcome.2 known
    · exact remembers.nearest d found before
    · exact ⟨e, same.symm, searched.2 e looked⟩

theorem settles_load (once : IsSpelledOnce places) {path : Path} (inside : path ∈ places) :
    Settles fs places (load fs path) (Tsconfig.load fs path).result := by
  intro t remembers
  unfold load
  rw [runFrom_bind_ok _ (runFrom_state t)]
  cases known : t.state.byPath.get? path with
  | some c =>
    obtain ⟨q, place, same, found⟩ := remembers.byPath path c known
    obtain rfl := once q place path inside same
    rw [found]
    exact ⟨t, rfl, remembers, .refl _⟩
  | none =>
    obtain ⟨r, -, comes⟩ := Tsconfig.comesTo_load fs path
    have result : (Tsconfig.load fs path).result = _ := (comes.outcome ()).1
    obtain ⟨asked, ran⟩ := comes
    rw [result]
    cases r with
    | error e => exact ⟨_, runFrom_bind_error _ (ran _ t), remembers, .refl _⟩
    | ok c => exact ⟨_, runFrom_bind_ok _ (ran _ t), remembers.loaded inside result, .refl _⟩

/-- The nearest configuration at or above a directory, as a cache that remembers nothing finds it. -/
def nearestAlone (fs : FileSystem) (directory : Path) : Except HookError (Option LoadedTsconfig) :=
  match (placesAbove directory).find? fs.isFile with
  | none => .ok none
  | some path => (Tsconfig.load fs path).result.map some

/-- Behind a search for one spelling of a directory, the nearest configuration is that of the spelling
for which the search found what there is; and the directory is known. -/
theorem nearest_of_searched (once : IsSpelledOnce places) {t : Traced TsconfigCache}
    (remembers : Remembers fs places t.state) {d e : Path} (inside : placesAbove e ⊆ places)
    (searched : Searched fs places e.ancestors (search fs t.state.nearestByDirectory d.ancestors)) :
    ∃ u, (nearest fs d).runFrom t = (nearestAlone fs e, u) ∧ Remembers fs places u.state ∧
      t.state.nearestByDirectory.Le u.state.nearestByDirectory ∧
      (u.state.nearestByDirectory.get? d).isSome = true := by
  have looked := search_looked fs t.state.nearestByDirectory d
  unfold nearest
  rw [runFrom_bind_ok _ (runFrom_state t)]
  generalize search fs t.state.nearestByDirectory d.ancestors = outcome at searched looked ⊢
  have first : outcome.1 = (placesAbove e).find? fs.isFile := searched.1
  have found : ∀ path, outcome.1 = some path → path ∈ places := fun path found =>
    inside (List.mem_of_find?_eq_some (first.symm.trans found))
  rw [runFrom_bind_ok _ (runFrom_update _ t), nearestAlone, ← first]
  have learned := remembers.searched searched
  have more := PathMemo.le_foldl_insertNew outcome.2 t.state.nearestByDirectory outcome.1
  obtain ⟨v, known⟩ := Option.isSome_iff_exists.1 looked
  cases located : outcome.1 with
  | none =>
    rw [located] at learned more known
    exact ⟨_, rfl, learned, more, Option.isSome_of_eq_some known⟩
  | some path =>
    rw [located] at learned more known
    have loaded : Settles fs places (load fs path >>= fun c => pure (some c)) _ :=
      (settles_load once (found path located)).bind_map fun c _ => settles_pure (some c)
    obtain ⟨u, ran, left, most⟩ := loaded ⟨_, t.trace⟩ learned
    exact ⟨u, ran, left, more.trans most, Option.isSome_of_eq_some (most d v known)⟩

theorem settles_nearest (once : IsSpelledOnce places) {d : Path} (inside : placesAbove d ⊆ places) :
    Settles fs places (nearest fs d) (nearestAlone fs d) := by
  intro t remembers
  obtain ⟨u, ran, left, more, -⟩ :=
    nearest_of_searched once remembers inside (searched_ancestors once remembers inside)
  exact ⟨u, ran, left, more⟩

/-- The options that govern a file when this is the nearest configuration. -/
def optionsUnder (fallback : Option LoadedTsconfig) (file : Path) (governing : Option LoadedTsconfig) :
    Option CompilerOptions :=
  match governing.filter (·.admits file) with
  | some config => some config.compilerOptions
  | none => (fallback.filter (·.admits file)).map LoadedTsconfig.compilerOptions

theorem optionsUnder_some (fallback : Option LoadedTsconfig) (file : Path) (c : LoadedTsconfig) :
    optionsUnder fallback file (some c) =
      if c.admits file then some c.compilerOptions else optionsUnder fallback file none := by
  unfold optionsUnder
  cases admitted : c.admits file <;> simp [Option.filter, admitted]

theorem runFrom_optionsFor (fallback : Option LoadedTsconfig) {file : Path} {t u : Traced TsconfigCache}
    {r : Except HookError (Option LoadedTsconfig)}
    (ran : (nearest fs (LoadedTsconfig.directoryOf file)).runFrom t = (r, u)) :
    (optionsFor fs fallback file).runFrom t = (r.map (optionsUnder fallback file), u) := by
  unfold optionsFor
  cases r with
  | error e => exact runFrom_bind_error _ ran
  | ok governing =>
    rw [runFrom_bind_ok _ ran]
    show _ = (Except.ok (optionsUnder fallback file governing), u)
    unfold optionsUnder
    cases governing.filter (·.admits file) <;> rfl

theorem runFrom_ask_options (fallback : Option LoadedTsconfig) {file : Path} {t u : Traced TsconfigCache}
    {r : Except HookError (Option LoadedTsconfig)}
    (ran : (nearest fs (LoadedTsconfig.directoryOf file)).runFrom t = (r, u)) :
    ((Question.options file).ask fs fallback).runFrom t =
      ((r.map (optionsUnder fallback file)).map .options, u) := by
  have ran := runFrom_optionsFor fallback ran
  cases r with
  | error e => exact runFrom_bind_error _ ran
  | ok governing => exact runFrom_bind_ok _ ran

theorem settles_optionsFor (once : IsSpelledOnce places) (fallback : Option LoadedTsconfig) {file : Path}
    (inside : placesAbove (LoadedTsconfig.directoryOf file) ⊆ places) :
    Settles fs places (optionsFor fs fallback file)
      ((nearestAlone fs (LoadedTsconfig.directoryOf file)).map (optionsUnder fallback file)) := by
  intro t remembers
  obtain ⟨u, ran, left⟩ := settles_nearest once inside t remembers
  exact ⟨u, runFrom_optionsFor fallback ran, left⟩

/-- What is answered to a question when nothing is remembered. -/
def Question.answerAlone (fs : FileSystem) (fallback : Option LoadedTsconfig) :
    Question → Except HookError Answer
  | load path => (Tsconfig.load fs path).result.map .loaded
  | nearest directory => (nearestAlone fs directory).map .nearest
  | options file =>
    ((nearestAlone fs (LoadedTsconfig.directoryOf file)).map (optionsUnder fallback file)).map .options

theorem settles_ask (once : IsSpelledOnce places) (fallback : Option LoadedTsconfig) {q : Question}
    (inside : q.places ⊆ places) : Settles fs places (q.ask fs fallback) (q.answerAlone fs fallback) := by
  cases q with
  | load path =>
    exact (settles_load once (inside List.mem_cons_self)).bind_map fun c _ => settles_pure (Answer.loaded c)
  | nearest d => exact (settles_nearest once inside).bind_map fun c _ => settles_pure (Answer.nearest c)
  | options file =>
    exact (settles_optionsFor once fallback inside).bind_map fun o _ => settles_pure (Answer.options o)

/-! ## Any history -/

theorem answers_eq (once : IsSpelledOnce places) (fallback : Option LoadedTsconfig)
    {questions : List Question} (inside : ∀ q ∈ questions, q.places ⊆ places)
    (remembers : Remembers fs places cache) :
    answers fs fallback questions cache = questions.map (·.answerAlone fs fallback) := by
  induction questions generalizing cache with
  | nil => rfl
  | cons q questions ih =>
    obtain ⟨here, rest⟩ := List.forall_mem_cons.1 inside
    obtain ⟨u, ran, after, -⟩ := settles_ask once fallback here ⟨cache, []⟩ remembers
    unfold answers
    rw [outcome_eq_runFrom, ran, ih rest after, List.map_cons]

/-- A cache answers every question of a sequence, failures included, like an empty one, as long as no
configuration is looked for in two spellings. -/
theorem answers_alone (fs : FileSystem) (fallback : Option LoadedTsconfig) (questions : List Question)
    (once : IsSpelledOnce (questions.flatMap Question.places)) :
    answers fs fallback questions {} =
      questions.map fun q => ((q.ask fs fallback).outcome {}).1 := by
  have inside : ∀ q ∈ questions, q.places ⊆ questions.flatMap Question.places :=
    fun q member p place => List.mem_flatMap.2 ⟨q, member, place⟩
  rw [answers_eq once fallback inside remembers_empty]
  refine List.map_congr_left fun q member => ?_
  obtain ⟨u, ran, -⟩ := settles_ask once fallback (inside q member) ⟨{}, []⟩ remembers_empty
  rw [outcome_eq_runFrom, ran]

/-- Configurations at two levels, the lower one malformed. -/
def nestedTree : FileTree :=
  ⟨[(["p".toList, "tsconfig.json".toList], .text "\x7b\x7d".toList),
    (["p".toList, "x".toList, "tsconfig.json".toList], .text "\x7b".toList)], []⟩

theorem answers_alone_nested :
    let questions : List Question :=
      [.options ⟨"/p/a.ts".toList⟩, .nearest ⟨"/p/x/y".toList⟩, .load ⟨"/p/tsconfig.json".toList⟩,
        .options ⟨"/p/x/a.ts".toList⟩]
    IsSpelledOnce (questions.flatMap Question.places) ∧
      answers nestedTree.lexical none questions {} =
        questions.map fun q => ((q.ask nestedTree.lexical none).outcome {}).1 := by
  intro questions
  have once : IsSpelledOnce (questions.flatMap Question.places) := isSpelledOnce_of_normal (by decide)
  exact ⟨once, answers_alone nestedTree.lexical none questions once⟩

/-! ## Another spelling -/

theorem length_of_mem_placesAbove {d p : Path} (member : p ∈ placesAbove d) :
    p.components.length ≤ d.components.length + 1 := by
  obtain ⟨e, above, rfl⟩ := List.mem_map.1 member
  simpa [components_place] using Path.length_of_mem_ancestors above

/-- The places above one directory are spelled once: each has fewer components than those before it. -/
theorem isSpelledOnce_placesAbove (d : Path) : IsSpelledOnce (placesAbove d) := by
  induction d using Path.above_induction with
  | top d top =>
    rw [placesAbove_top top]
    intro p member q memberToo _
    rw [List.mem_singleton.1 member, List.mem_singleton.1 memberToo]
  | below d above found ih =>
    have apart : ∀ p ∈ placesAbove above, p.components ≠ (d.child Tsconfig.fileName).components := by
      intro p member same
      have shorter := length_of_mem_placesAbove member
      have longer := Path.length_components_parent? found
      have lengths := congrArg List.length same
      simp only [components_place, List.length_append, List.length_singleton] at lengths
      omega
    rw [placesAbove_below found]
    intro p member q memberToo same
    obtain rfl | member := List.mem_cons.1 member <;> obtain rfl | memberToo := List.mem_cons.1 memberToo
    · rfl
    · exact absurd same.symm (apart q memberToo)
    · exact absurd same (apart p member)
    · exact ih p member q memberToo same

/-- The nearest configuration of a known directory is found in the spelling in which the directory was
asked about first. -/
theorem searched_known (once : IsSpelledOnce places) (remembers : Remembers fs places cache) {d e : Path}
    (same : d.components = e.components) (inside : placesAbove e ⊆ places)
    (known : (cache.nearestByDirectory.get? d).isSome = true) :
    Searched fs places e.ancestors (search fs cache.nearestByDirectory d.ancestors) := by
  obtain ⟨found, known⟩ := Option.isSome_iff_exists.1 known
  obtain ⟨above, whole⟩ := Path.exists_ancestors d
  obtain ⟨other, sameToo, insideToo, first⟩ := remembers.nearest d found known
  rw [placesAbove_eq once (sameToo.trans same) insideToo inside] at first
  rw [whole, search, known]
  exact ⟨first.symm, by simp⟩

/-- A file whose directory was asked about before is judged by the configuration in the spelling that the
directory had then. -/
theorem answers_respelled (fs : FileSystem) (fallback : Option LoadedTsconfig) {file again : Path}
    (same : (LoadedTsconfig.directoryOf again).components = (LoadedTsconfig.directoryOf file).components) :
    answers fs fallback [.options file, .options again] {} =
      [file, again].map fun f =>
        ((nearestAlone fs (LoadedTsconfig.directoryOf file)).map (optionsUnder fallback f)).map .options := by
  have once := isSpelledOnce_placesAbove (LoadedTsconfig.directoryOf file)
  have all := List.Subset.refl (placesAbove (LoadedTsconfig.directoryOf file))
  have start : Remembers fs (placesAbove (LoadedTsconfig.directoryOf file)) {} := remembers_empty
  obtain ⟨u, ran, remembers, -, known⟩ :=
    nearest_of_searched once (t := ⟨{}, []⟩) start all (searched_ancestors once start all)
  rw [PathMemo.get?_congr _ same.symm] at known
  obtain ⟨v, ranAgain, -⟩ := nearest_of_searched once (t := ⟨u.state, []⟩) remembers all
    (searched_known once remembers same all known)
  have first := runFrom_ask_options fallback ran
  have second := runFrom_ask_options fallback ranAgain
  simp only [answers, outcome_eq_runFrom, first, second, List.map_cons, List.map_nil]

/-- A configuration that declares nothing. -/
def silentTree : FileTree :=
  ⟨[(["p".toList, "x".toList, "tsconfig.json".toList], .text "\x7b\x7d".toList)], []⟩

/-- A file belongs to a configuration by the spelling of the directory that it is in: asked about in one
that is not normal it does not, and then not in the normal one either, where it does by itself. -/
theorem answers_spelled :
    let first : Path := ⟨"/p//x/a.ts".toList⟩
    let again : Path := ⟨"/p/x/a.ts".toList⟩
    answers silentTree.lexical none [.options first, .options again] {} =
        [.ok (.options none), .ok (.options none)] ∧
      ((Question.ask silentTree.lexical none (.options again)).outcome {}).1 =
        .ok (.options (some {})) := by
  intro first again
  have found {d path : Path} (located : (placesAbove d).find? silentTree.lexical.isFile = some path)
      (evaluated : (((Tsconfig.loadWithin silentTree.lexical (silentTree.lexical.files.length + 1)
        [path.normalize] path).bind Except.toOption).map
        fun c => [c.parents.isNone, c.compilerOptions.isNone, c.files.isNone, c.included.isNone,
          c.excluded.isNone]) = some [true, true, true, true, true]) :
      nearestAlone silentTree.lexical d = .ok (some ⟨path, {}⟩) := by
    obtain ⟨c, loaded, declared⟩ := Tsconfig.exists_load silentTree.lexical path _ evaluated ()
    obtain ⟨parents, options, files, included, excluded⟩ := c
    simp only [List.cons.injEq, Option.isNone_iff_eq_none] at declared
    obtain ⟨rfl, rfl, rfl, rfl, rfl, -⟩ := declared
    rw [nearestAlone, located]
    show Except.map some ((Tsconfig.load silentTree.lexical path).outcome ()).1 = _
    rw [loaded]
    rfl
  have spelled : nearestAlone silentTree.lexical (LoadedTsconfig.directoryOf first) =
      .ok (some ⟨⟨"/p//x/tsconfig.json".toList⟩, {}⟩) := found (by decide +kernel) (by decide +kernel)
  have normal : nearestAlone silentTree.lexical (LoadedTsconfig.directoryOf again) =
      .ok (some ⟨⟨"/p/x/tsconfig.json".toList⟩, {}⟩) := found (by decide +kernel) (by decide +kernel)
  constructor
  · rw [answers_respelled silentTree.lexical none (by decide +kernel), spelled]
    have outside : LoadedTsconfig.admits ⟨⟨"/p//x/tsconfig.json".toList⟩, {}⟩ first = false ∧
        LoadedTsconfig.admits ⟨⟨"/p//x/tsconfig.json".toList⟩, {}⟩ again = false := by decide +kernel
    show [Except.ok (Answer.options (optionsUnder none first _)),
      Except.ok (Answer.options (optionsUnder none again _))] = _
    rw [optionsUnder_some, optionsUnder_some, outside.1, outside.2]
    rfl
  · obtain ⟨u, ran, -⟩ := settles_ask (isSpelledOnce_placesAbove (LoadedTsconfig.directoryOf again)) none
      (q := .options again) (List.Subset.refl _) ⟨{}, []⟩ remembers_empty
    rw [outcome_eq_runFrom, ran, Question.answerAlone, normal]
    have inside : LoadedTsconfig.admits ⟨⟨"/p/x/tsconfig.json".toList⟩, {}⟩ again = true := by
      decide +kernel
    show Except.ok (Answer.options (optionsUnder none again _)) = _
    rw [optionsUnder_some, inside]
    rfl

end ModuleHooks.TsconfigCache
