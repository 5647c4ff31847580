import ModuleHooks.Proofs.Package.Patterns

/-!
What a package exports for a subpath. A subpath selects one target, by a key that is the subpath itself or by
the most specific pattern that matches it, and this target alone decides (`exported?_eq`). Which pattern that
is does not depend on the order in which the manifest has its keys.
-/
namespace ModuleHooks.Package

/-- The target of the best pattern for a subpath, and what stands for its stars. -/
def patternSelection? (members : Members Json) (subpath : Text) : Option (Json × Option Text) :=
  (bestPattern? members subpath).map fun (target, star) => (target, some star)

/-- The target that a subpath selects, and what stands for its stars if it is the target of a pattern. -/
def selection? (exports : Json) (subpath : Text) : Option (Json × Option Text) :=
  let whole := if subpath = ['.'] then some (exports, none) else none
  match exports with
  | .object members =>
    if hasSubpaths members then
      match Members.get? subpath members with
      | some target =>
        if subpath.contains '*' then patternSelection? members subpath else some (target, none)
      | none => patternSelection? members subpath
    else whole
  | _ => whole

/-- A text with the star in the place of its stars, unless that has a step up; as it is without a star. -/
def place : Option Text → Text → Option Text
  | none, text => some text
  | some star, text =>
    if stepsUp (Text.fill '*' star text) then none else some (Text.fill '*' star text)

/-- What a selected target comes to under the conditions. -/
def selected? (conditions : List Text) : Json × Option Text → Option Text
  | (target, star) => (exportTarget? conditions target).bind (place star)

theorem selected?_whole (conditions : List Text) (target : Json) :
    selected? conditions (target, none) = exportTarget? conditions target :=
  Option.bind_fun_some _

theorem exportPattern?_eq (members : Members Json) (conditions : List Text) (subpath : Text) :
    exportPattern? members conditions subpath =
      (patternSelection? members subpath).bind (selected? conditions) := by
  unfold exportPattern? patternSelection?
  cases bestPattern? members subpath <;> rfl

theorem selection?_object {members : Members Json} (subpaths : hasSubpaths members = true) (subpath : Text) :
    selection? (.object members) subpath =
      match Members.get? subpath members with
      | some target =>
        if subpath.contains '*' then patternSelection? members subpath else some (target, none)
      | none => patternSelection? members subpath :=
  if_pos subpaths

/-- What is exported is what the selected target comes to. -/
theorem exported?_eq (exports : Json) (conditions : List Text) (subpath : Text) :
    exported? exports conditions subpath = (selection? exports subpath).bind (selected? conditions) := by
  have whole : (if subpath = ['.'] then exportTarget? conditions exports else none) =
      (if subpath = ['.'] then some (exports, none) else none).bind (selected? conditions) := by
    split
    · exact (selected?_whole conditions exports).symm
    · rfl
  unfold exported?
  cases exports with
  | object members =>
    dsimp only
    split
    case isTrue subpaths =>
      rw [selection?_object subpaths, exportPattern?_eq]
      cases Members.get? subpath members with
      | none => rfl
      | some target =>
        dsimp only
        split
        · rfl
        · exact (selected?_whole conditions target).symm
    case isFalse conditional =>
      rw [whole, selection?]
      simp only [conditional, Bool.false_eq_true, if_false]
  | _ => exact whole

/-! ## Keys -/

section

variable {members permuted : Members Json} {subpath key star : Text} {target : Json}

theorem hasSubpaths_iff : hasSubpaths members = true ↔ ∃ key ∈ members.map Prod.fst, key.head? = some '.' := by
  simp [hasSubpaths]

/-- The subpath is not taken as a key of its own: it is none, or it has a star. -/
def IsOpen (members : Members Json) (subpath : Text) : Prop :=
  subpath ∉ members.map Prod.fst ∨ '*' ∈ subpath

theorem selection?_of_isOpen (subpaths : hasSubpaths members = true) (isOpen : IsOpen members subpath) :
    selection? (.object members) subpath = patternSelection? members subpath := by
  rw [selection?_object subpaths]
  rcases isOpen with unknown | starred
  · rw [Members.get?_eq_none_iff.2 unknown]
  · have contained : subpath.contains '*' = true := by simpa using starred
    rw [contained]
    cases Members.get? subpath members <;> rfl

/-- A key with one star that matches the subpath. -/
def Candidate (members : Members Json) (subpath key : Text) : Prop :=
  key ∈ members.map Prod.fst ∧ ∃ star, Matches key subpath star

/-- Of the keys that match, the key has the longest text before its star, and of those with as much text
there it is the longest. -/
def IsMostSpecific (members : Members Json) (subpath key : Text) : Prop :=
  Candidate members subpath key ∧ ∀ other, Candidate members subpath other →
    (leadOf other).length < (leadOf key).length ∨
      (leadOf other).length = (leadOf key).length ∧ other.length ≤ key.length

theorem IsMostSpecific.unique {other : Text} (first : IsMostSpecific members subpath key)
    (second : IsMostSpecific members subpath other) : key = other := by
  obtain ⟨⟨there, star, matching⟩, greatest⟩ := first
  obtain ⟨⟨thereToo, starToo, matchingToo⟩, greatestToo⟩ := second
  have below := greatest other ⟨thereToo, starToo, matchingToo⟩
  have above := greatestToo key ⟨there, star, matching⟩
  rcases matching.eq_or_beats matchingToo with same | beats
  · exact same
  · unfold Beats at beats
    omega

/-- What the pass ends with is the target of the most specific key, and the star that the key has there. -/
theorem bestPattern?_spec (map : Members Json) (subpath : Text) :
    ((¬∃ key, Candidate map subpath key) ∧ bestPattern? map subpath = none) ∨
      ∃ key target star, IsMostSpecific map subpath key ∧ (key, target) ∈ map ∧
        Matches key subpath star ∧ bestPattern? map subpath = some (target, star) := by
  obtain ⟨_ | ⟨key, target, star⟩, ends, best⟩ := exists_isBest map subpath
  · refine .inl ⟨?_, ends⟩
    rintro ⟨key, named, star, matching⟩
    obtain ⟨member, inside, rfl⟩ := List.mem_map.1 named
    exact best member inside star matching
  · obtain ⟨there, matching, beats⟩ := best
    have candidate : Candidate map subpath key := ⟨List.mem_map.2 ⟨_, there, rfl⟩, star, matching⟩
    refine .inr ⟨key, target, star, ⟨candidate, ?_⟩, there, matching, ends⟩
    rintro other ⟨named, otherStar, matched⟩
    obtain ⟨member, inside, rfl⟩ := List.mem_map.1 named
    rcases beats member inside otherStar matched with same | longer | ⟨same, longer⟩
    · exact .inr (by simp [same])
    · exact .inl longer
    · exact .inr ⟨same.symm, Nat.le_of_lt longer⟩

/-! ## The order of the members -/

theorem candidate_perm (perm : permuted.Perm members) :
    Candidate permuted subpath key ↔ Candidate members subpath key := by
  unfold Candidate
  rw [(perm.map Prod.fst).mem_iff]

theorem bestPattern?_perm (distinct : members.IsDistinct) (perm : permuted.Perm members) :
    bestPattern? permuted subpath = bestPattern? members subpath := by
  have specific (key : Text) : IsMostSpecific permuted subpath key ↔ IsMostSpecific members subpath key := by
    simp only [IsMostSpecific, candidate_perm perm]
  rcases bestPattern?_spec permuted subpath with
    ⟨nothing, first⟩ | ⟨key, target, star, most, there, matching, first⟩ <;>
  rcases bestPattern?_spec members subpath with
    ⟨nothingToo, second⟩ | ⟨keyToo, targetToo, starToo, mostToo, thereToo, matchingToo, second⟩
  · rw [first, second]
  · exact absurd ⟨keyToo, (candidate_perm perm).2 mostToo.1⟩ nothing
  · exact absurd ⟨key, (candidate_perm perm).1 most.1⟩ nothingToo
  · obtain rfl := ((specific key).1 most).unique mostToo
    rw [first, second, distinct.value_unique (perm.mem_iff.1 there) thereToo, matching.star_unique matchingToo]

/-- The order of the keys of a map does not matter to what it exports. -/
theorem exported?_perm (distinct : members.IsDistinct) (subpaths : hasSubpaths members = true)
    (perm : permuted.Perm members) (conditions : List Text) (subpath : Text) :
    exported? (.object permuted) conditions subpath = exported? (.object members) conditions subpath := by
  have subpathsToo : hasSubpaths permuted = true := by
    rw [hasSubpaths_iff] at subpaths ⊢
    simpa only [(perm.map Prod.fst).mem_iff] using subpaths
  have same : selection? (.object permuted) subpath = selection? (.object members) subpath := by
    rw [selection?_object subpaths, selection?_object subpathsToo, patternSelection?, patternSelection?,
      Members.get?_perm distinct perm, bestPattern?_perm distinct perm]
  rw [exported?_eq, exported?_eq, same]

end

/-- A subpath under an object of subpaths. Unless it is taken as a key itself, the patterns that match it
decide: without any there is nothing; otherwise exactly one of them has the longest text before its star and
is, among those with as much there, the longest, and the answer is what its target comes to under the
conditions, if that begins in the package, with every star filled, if that has no step up. No other key is
looked at, and the order of the keys does not matter, whatever the subpath is. -/
theorem exports_mostSpecific {members : Members Json} (distinct : members.IsDistinct)
    (dotted : ∃ key ∈ members.map Prod.fst, key.head? = some '.') (conditions : List Text) (subpath : Text) :
    let answer := exported? (.object members) conditions subpath
    (IsOpen members subpath →
      ((¬∃ key, Candidate members subpath key) → answer = none) ∧
      ((∃ key, Candidate members subpath key) →
        ∃ key target star, IsMostSpecific members subpath key ∧
          (∀ other, IsMostSpecific members subpath other → other = key) ∧
          (key, target) ∈ members ∧ Matches key subpath star ∧
          ∀ found, answer = some found ↔
            ∃ text, targetText? conditions target = some text ∧ isInside text = true ∧
              found = Text.fill '*' star text ∧ stepsUp found = false)) ∧
    ∀ permuted : Members Json, permuted.Perm members →
      exported? (.object permuted) conditions subpath = answer := by
  intro answer
  have subpaths := hasSubpaths_iff.2 dotted
  refine ⟨fun isOpen => ?_, fun permuted perm => exported?_perm distinct subpaths perm conditions subpath⟩
  have selects : answer = (patternSelection? members subpath).bind (selected? conditions) := by
    rw [← selection?_of_isOpen subpaths isOpen]
    exact exported?_eq (.object members) conditions subpath
  rcases bestPattern?_spec members subpath with
    ⟨nothing, ends⟩ | ⟨key, target, star, most, there, matching, ends⟩
  · rw [patternSelection?, ends] at selects
    exact ⟨fun _ => selects, fun some => absurd some nothing⟩
  · refine ⟨fun nothing => absurd ⟨key, most.1⟩ nothing, fun _ => ?_⟩
    refine ⟨key, target, star, most, fun other mostToo => mostToo.unique most, there, matching, ?_⟩
    intro found
    rw [selects, patternSelection?, ends, Option.map_some, Option.bind_some, selected?,
      Option.bind_eq_some_iff]
    constructor
    · rintro ⟨text, exported, placed⟩
      obtain ⟨comes, inside⟩ := Option.filter_eq_some_iff.1 exported
      dsimp only [place] at placed
      split at placed
      case isTrue => exact nomatch placed
      case isFalse level =>
        cases placed
        exact ⟨text, comes, inside, rfl, by simpa using level⟩
    · rintro ⟨text, comes, inside, rfl, level⟩
      refine ⟨text, Option.filter_eq_some_iff.2 ⟨comes, inside⟩, ?_⟩
      simp [place, level]

/-- Three keys that match what lies below `./utils/internal/`; the one that says most has nothing there. -/
def layeredExports : Members Json :=
  [("./utils/*".toList, .string "./lib/utils/*.js".toList), ("./utils/internal/*".toList, .null),
    ("./*".toList, .string "./lib/*.js".toList)]

theorem candidate_layeredExports : Candidate layeredExports "./utils/a".toList "./*".toList :=
  ⟨by decide, "utils/a".toList, starOf?_eq_some_iff.1 (by decide)⟩

theorem exports_mostSpecific_layered :
    let subpath := "./utils/a".toList
    let answer := exported? (.object layeredExports) [] subpath
    layeredExports.IsDistinct ∧ (∃ key ∈ layeredExports.map Prod.fst, key.head? = some '.') ∧
      IsOpen layeredExports subpath ∧ (∃ key, Candidate layeredExports subpath key) ∧
      (∃ key target star, IsMostSpecific layeredExports subpath key ∧ (key, target) ∈ layeredExports ∧
        Matches key subpath star ∧
        ∀ found, answer = some found ↔
          ∃ text, targetText? [] target = some text ∧ isInside text = true ∧
            found = Text.fill '*' star text ∧ stepsUp found = false) ∧
      answer = some "./lib/utils/a.js".toList ∧
      exported? (.object layeredExports.reverse) [] subpath = answer := by
  intro subpath answer
  have distinct : layeredExports.IsDistinct := by decide
  have dotted : ∃ key ∈ layeredExports.map Prod.fst, key.head? = some '.' := by decide
  have isOpen : IsOpen layeredExports subpath := .inl (by decide)
  have candidate : ∃ key, Candidate layeredExports subpath key := ⟨_, candidate_layeredExports⟩
  obtain ⟨selects, order⟩ := exports_mostSpecific distinct dotted [] subpath
  obtain ⟨key, target, star, most, -, there, matching, decides⟩ := (selects isOpen).2 candidate
  exact ⟨distinct, dotted, isOpen, candidate, ⟨key, target, star, most, there, matching, decides⟩, by decide,
    order _ (List.reverse_perm _)⟩

/-- A key with nothing behind it hides what less specific keys have. -/
example : exported? (.object layeredExports) [] "./utils/internal/a".toList = none := by decide

end ModuleHooks.Package
