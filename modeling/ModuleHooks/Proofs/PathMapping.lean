import Mathlib.Data.List.Induction
import ModuleHooks.PathMapping
import ModuleHooks.Proofs.Pieces
import ModuleHooks.Specifier

/-!
The key of a paths mapping that a specifier selects. A key without a star is taken before all patterns; of the
patterns that match, the pass keeps one with the most text in front of its star, and on a tie the one that is
declared last (`isBest_bestMatch?`). What is tried for the specifier follows from that key alone
(`candidates_longest`).
-/
namespace ModuleHooks.PathMappings

/-- The key has a star, and the specifier is the key with `star` in the place of the first one. -/
inductive Matches : Text → Text → Text → Prop
  | fill {lead tail star : Text} (plain : '*' ∉ lead) : Matches (lead ++ '*' :: tail) (lead ++ star ++ tail) star

/-- Where a pattern stands, none in front of it that matches has a longer text before its star, and none behind it
one as long. -/
def IsLastLongest (specifier : Text) (before : List (Text × List Text)) (pattern : Text)
    (after : List (Text × List Text)) : Prop :=
  (∀ entry ∈ before, ∀ star, Matches entry.1 specifier star →
    (Text.upTo '*' entry.1).length ≤ (Text.upTo '*' pattern).length) ∧
  ∀ entry ∈ after, ∀ star, Matches entry.1 specifier star →
    (Text.upTo '*' entry.1).length < (Text.upTo '*' pattern).length

section

variable {entries before after : List (Text × List Text)} {entry : Text × List Text}
  {pattern specifier star : Text} {targets : List Text}

/-! ## Patterns that match -/

theorem capture?_eq_some_iff (targets : List Text) :
    (PathMapping.mk pattern targets).capture? specifier = some star ↔ Matches pattern specifier star := by
  constructor
  · intro captures
    obtain ⟨⟨lead, tail⟩, cut, inside⟩ := Option.bind_eq_some_iff.1 captures
    obtain ⟨rest, after, before⟩ := Option.bind_eq_some_iff.1 inside
    obtain ⟨rfl, plain⟩ : pattern = lead ++ '*' :: tail ∧ '*' ∉ lead := Text.cutAt?_eq_some cut
    rw [Text.append_of_after? after, Text.append_of_before? before, ← List.append_assoc]
    exact .fill plain
  · rintro ⟨plain⟩
    simp [PathMapping.capture?, Text.cutAt?_append_mark plain, List.append_assoc, Text.after?_append,
      Text.before?_append]

theorem capture?_eq_none_iff (targets : List Text) :
    (PathMapping.mk pattern targets).capture? specifier = none ↔ ∀ star, ¬Matches pattern specifier star := by
  rw [Option.eq_none_iff_forall_ne_some]
  exact forall_congr' fun star => not_congr (capture?_eq_some_iff targets)

theorem Matches.star_unique {other : Text} (first : Matches pattern specifier star)
    (second : Matches pattern specifier other) : star = other := by
  have captures := (capture?_eq_some_iff []).2 first
  rw [(capture?_eq_some_iff []).2 second] at captures
  exact (Option.some.inj captures).symm

theorem IsLastLongest.append (longest : IsLastLongest specifier before pattern after)
    (shorter : ∀ star, Matches entry.1 specifier star →
      (Text.upTo '*' entry.1).length < (Text.upTo '*' pattern).length) :
    IsLastLongest specifier before pattern (after ++ [entry]) := by
  refine ⟨longest.1, fun other there => ?_⟩
  rcases List.mem_append.1 there with there | last
  · exact longest.2 other there
  · obtain rfl := List.mem_singleton.1 last
    exact shorter

theorem IsLastLongest.le (longest : IsLastLongest specifier before pattern after)
    (there : entry ∈ before ++ (pattern, targets) :: after) (matching : Matches entry.1 specifier star) :
    (Text.upTo '*' entry.1).length ≤ (Text.upTo '*' pattern).length := by
  rcases List.mem_append.1 there with front | back
  · exact longest.1 entry front star matching
  · rcases List.mem_cons.1 back with rfl | back
    · exact Nat.le_refl _
    · exact Nat.le_of_lt (longest.2 entry back star matching)

theorem IsLastLongest.notMem {first second : Text × List Text} {beforeToo afterToo : List (Text × List Text)}
    {starToo : Text} (matching : Matches first.1 specifier star) (matchingToo : Matches second.1 specifier starToo)
    (longest : IsLastLongest specifier before first.1 after)
    (longestToo : IsLastLongest specifier beforeToo second.1 afterToo) (there : first ∈ beforeToo) :
    second ∉ after := by
  intro behind
  have above := longestToo.1 first there star matching
  have below := longest.2 second behind starToo matchingToo
  omega

/-- Only one place in a list is that of the last of the longest patterns. -/
theorem IsLastLongest.unique {first second : Text × List Text} {beforeToo afterToo : List (Text × List Text)}
    {starToo : Text} (matching : Matches first.1 specifier star) (matchingToo : Matches second.1 specifier starToo)
    (longest : IsLastLongest specifier before first.1 after)
    (longestToo : IsLastLongest specifier beforeToo second.1 afterToo)
    (same : before ++ first :: after = beforeToo ++ second :: afterToo) : first = second := by
  rcases List.append_eq_append_iff.1 same with ⟨between, rfl, rest⟩ | ⟨between, rfl, rest⟩
  · cases between with
    | nil => exact (List.cons.inj rest).1
    | cons head between =>
      obtain ⟨rfl, rfl⟩ := List.cons.inj rest
      exact absurd (by simp) (longest.notMem matching matchingToo longestToo (by simp))
  · cases between with
    | nil => exact (List.cons.inj rest).1.symm
    | cons head between =>
      obtain ⟨rfl, rfl⟩ := List.cons.inj rest
      exact absurd (by simp) (longestToo.notMem matchingToo matching longest (by simp))

/-! ## The pass over the keys -/

/-- What a pass has found among the entries that it has seen: nothing if no key of theirs matches, or the last of
those with the longest text in front of the star. -/
def IsBest (specifier : Text) (seen : List (Text × List Text)) : Option (PathMapping × Text) → Prop
  | none => ∀ entry ∈ seen, ∀ star, ¬Matches entry.1 specifier star
  | some (⟨pattern, targets⟩, star) =>
    ∃ before after, seen = before ++ (pattern, targets) :: after ∧ Matches pattern specifier star ∧
      IsLastLongest specifier before pattern after

/-- An entry that does not match changes nothing. -/
theorem IsBest.skip {found : Option (PathMapping × Text)} (best : IsBest specifier entries found)
    (unmatched : ∀ star, ¬Matches pattern specifier star) :
    IsBest specifier (entries ++ [(pattern, targets)]) found := by
  cases found with
  | none =>
    intro entry there
    rcases List.mem_append.1 there with there | last
    · exact best entry there
    · obtain rfl := List.mem_singleton.1 last
      exact unmatched
  | some found =>
    obtain ⟨before, after, rfl, matching, longest⟩ := best
    refine ⟨before, after ++ [(pattern, targets)], by simp, matching, ?_⟩
    exact longest.append fun star matched => absurd matched (unmatched star)

/-- An entry that matches is kept unless there is one with a longer text in front of the star. -/
theorem IsBest.better {found : Option (PathMapping × Text)} (best : IsBest specifier entries found)
    (matching : Matches pattern specifier star) :
    IsBest specifier (entries ++ [(pattern, targets)]) (better found (⟨pattern, targets⟩, star)) := by
  cases found with
  | none =>
    refine ⟨entries, [], rfl, matching, ?_, nofun⟩
    intro entry there star matched
    exact absurd matched (best entry there star)
  | some found =>
    obtain ⟨before, after, rfl, matched, longest⟩ := best
    unfold PathMappings.better
    dsimp only
    split
    case isTrue shorter =>
      exact ⟨before, after ++ [(pattern, targets)], by simp, matched, longest.append fun _ _ => shorter⟩
    case isFalse longer =>
      have above : (Text.upTo '*' found.1.pattern).length ≤ (Text.upTo '*' pattern).length :=
        Nat.not_lt.1 longer
      refine ⟨_, [], rfl, matching, ?_, nofun⟩
      intro entry there other matchedToo
      exact Nat.le_trans (longest.le there matchedToo) above

/-- The mapping of an entry. -/
def mappingOf (entry : Text × List Text) : PathMapping := ⟨entry.1, entry.2⟩

/-- The pass over the mappings of a list ends with the best of the list. -/
theorem isBest_bestMatch? {m : PathMappings} (own : m.mappings = entries.map mappingOf) (specifier : Text) :
    IsBest specifier entries (m.bestMatch? specifier) := by
  have passes (seen : List (Text × List Text)) : IsBest specifier seen
      (((seen.map mappingOf).filterMap fun mapping => (mapping.capture? specifier).map (mapping, ·)).foldl
        PathMappings.better none) := by
    induction seen using List.reverseRecOn with
    | nil => exact nofun
    | append_singleton seen entry ih =>
      obtain ⟨pattern, targets⟩ := entry
      rw [List.map_append, List.filterMap_append, List.foldl_append]
      cases captures : (PathMapping.mk pattern targets).capture? specifier with
      | none =>
        have unmatched := (capture?_eq_none_iff targets).1 captures
        simpa [captures, mappingOf] using ih.skip unmatched
      | some star =>
        have matching := (capture?_eq_some_iff targets).1 captures
        simpa [captures, mappingOf] using ih.better matching
  rw [bestMatch?, own]
  exact passes entries

/-! ## Exact keys -/

theorem isExact_iff (entry : Text × List Text) :
    (!(mappingOf entry).isWildcard && (mappingOf entry).pattern == specifier) = true ↔
      '*' ∉ specifier ∧ entry.1 = specifier := by
  rw [Bool.and_eq_true, beq_iff_eq, Bool.not_eq_true']
  constructor
  · rintro ⟨plain, rfl⟩
    exact ⟨by simpa [mappingOf, PathMapping.isWildcard] using plain, rfl⟩
  · rintro ⟨plain, rfl⟩
    exact ⟨by simpa [mappingOf, PathMapping.isWildcard] using plain, rfl⟩

theorem find?_exact (plain : '*' ∉ specifier) (first : specifier ∉ before.map Prod.fst) :
    ((before ++ (specifier, targets) :: after).map mappingOf).find?
        (fun mapping => !mapping.isWildcard && mapping.pattern == specifier) =
      some ⟨specifier, targets⟩ := by
  rw [List.map_append, List.map_cons, List.find?_eq_some_iff_append]
  refine ⟨(isExact_iff (specifier, targets)).2 ⟨plain, rfl⟩, _, _, rfl, ?_⟩
  intro mapping there
  obtain ⟨entry, inside, rfl⟩ := List.mem_map.1 there
  rw [Bool.not_eq_true', Bool.eq_false_iff]
  intro whole
  exact first (List.mem_map.2 ⟨entry, inside, ((isExact_iff entry).1 whole).2⟩)

theorem find?_inexact (other : '*' ∈ specifier ∨ specifier ∉ entries.map Prod.fst) :
    (entries.map mappingOf).find? (fun mapping => !mapping.isWildcard && mapping.pattern == specifier) =
      none := by
  rw [List.find?_eq_none]
  intro mapping there whole
  obtain ⟨entry, inside, rfl⟩ := List.mem_map.1 there
  obtain ⟨plain, same⟩ := (isExact_iff entry).1 whole
  rcases other with starred | unknown
  · exact plain starred
  · exact unknown (List.mem_map.2 ⟨entry, inside, same⟩)

/-! ## What is tried -/

/-- A specifier that is no path is mapped. -/
theorem candidates_eq (m : PathMappings) (named : Specifier.pathKind? specifier = none) :
    m.candidates specifier =
      match m.mappings.find? fun mapping => !mapping.isWildcard && mapping.pattern == specifier with
      | some whole => m.substitute whole []
      | none =>
        match m.bestMatch? specifier with
        | some (mapping, star) => m.substitute mapping star
        | none => if m.hasBaseUrl then [(m.base.join ⟨specifier⟩).normalize] else [] := by
  obtain ⟨relative, absolute⟩ :
      Specifier.isRelative specifier = false ∧ Specifier.isAbsolute specifier = false := by
    unfold Specifier.pathKind? at named
    cases relative : Specifier.isRelative specifier <;> cases absolute : Specifier.isAbsolute specifier <;>
      simp [relative, absolute] at named ⊢
  have here : specifier.startsWith "./".toList = false := by
    refine Bool.eq_false_iff.2 fun starts => ?_
    obtain ⟨rest, rfl⟩ := List.isPrefixOf_iff_prefix.1 starts
    exact nomatch relative
  have up : specifier.startsWith "../".toList = false := by
    refine Bool.eq_false_iff.2 fun starts => ?_
    obtain ⟨rest, rfl⟩ := List.isPrefixOf_iff_prefix.1 starts
    exact nomatch relative
  have rooted : (specifier.head? == some '/') = false := absolute
  unfold candidates
  rw [here, up, rooted]
  rfl

theorem ofEntries_mappings (full : ∀ entry ∈ entries, entry.2 ≠ []) (base : Path) (hasBaseUrl : Bool) :
    (ofEntries base hasBaseUrl entries).mappings = entries.map mappingOf := by
  unfold ofEntries
  dsimp only
  rw [List.filter_eq_self.2 fun entry there => by simpa using full entry there]
  rfl

end

/-- What is tried for a specifier that is no path, under keys that all have targets. The first key that is the
specifier itself, without a star, is taken before all others. Otherwise a pattern that matches is taken of which
none has a longer text before its star and none that is declared later has one as long, and there is one if any
pattern matches; the targets of the key follow in order, seen from the base, with what stands for the star in the
place of their first star. Otherwise the specifier itself is seen from the base, if that is set. Without a tie the
place of the pattern does not matter; on one the last is taken. -/
theorem candidates_longest {entries : List (Text × List Text)} {specifier : Text}
    (full : ∀ entry ∈ entries, entry.2 ≠ []) (named : Specifier.pathKind? specifier = none) (base : Path)
    (hasBaseUrl : Bool) :
    let answer := (ofEntries base hasBaseUrl entries).candidates specifier
    let place (star target : Text) := (base.join ⟨Text.fillFirst '*' star target⟩).normalize
    (∀ before targets after, entries = before ++ (specifier, targets) :: after → '*' ∉ specifier →
      specifier ∉ before.map Prod.fst → answer = targets.map (place [])) ∧
    ('*' ∈ specifier ∨ specifier ∉ entries.map Prod.fst →
      (∀ before pattern targets after star, entries = before ++ (pattern, targets) :: after →
        Matches pattern specifier star → IsLastLongest specifier before pattern after →
        answer = targets.map (place star)) ∧
      ((∃ entry ∈ entries, ∃ star, Matches entry.1 specifier star) →
        ∃ before pattern targets after star, entries = before ++ (pattern, targets) :: after ∧
          Matches pattern specifier star ∧ IsLastLongest specifier before pattern after) ∧
      ((¬∃ entry ∈ entries, ∃ star, Matches entry.1 specifier star) →
        answer = if hasBaseUrl then [(base.join ⟨specifier⟩).normalize] else [])) := by
  intro answer place
  have own := ofEntries_mappings full base hasBaseUrl
  have tried : answer = _ := candidates_eq (ofEntries base hasBaseUrl entries) named
  have best := isBest_bestMatch? own specifier
  rw [own] at tried
  constructor
  · rintro before targets after rfl plain first
    rw [find?_exact plain first] at tried
    exact tried
  · intro other
    rw [find?_inexact other] at tried
    dsimp only at tried
    cases found : (ofEntries base hasBaseUrl entries).bestMatch? specifier with
    | none =>
      rw [found] at best tried
      refine ⟨?_, ?_, fun _ => tried⟩
      · rintro before pattern targets after star rfl matching -
        exact absurd matching (best (pattern, targets) (by simp) star)
      · rintro ⟨entry, there, star, matching⟩
        exact absurd matching (best entry there star)
    | some choice =>
      obtain ⟨⟨pattern, targets⟩, star⟩ := choice
      rw [found] at best tried
      obtain ⟨before, after, whole, matching, longest⟩ := best
      refine ⟨?_, fun _ => ⟨before, pattern, targets, after, star, whole, matching, longest⟩, ?_⟩
      · intro beforeToo patternToo targetsToo afterToo starToo wholeToo matchingToo longestToo
        have same := IsLastLongest.unique matching matchingToo longest longestToo (whole.symm.trans wholeToo)
        obtain ⟨rfl, rfl⟩ := Prod.mk.inj same
        obtain rfl := matching.star_unique matchingToo
        exact tried
      · intro unmatched
        exact absurd ⟨(pattern, targets), by simp [whole], star, matching⟩ unmatched

/-- Keys of a scope, the second within the first, and a pattern that everything matches. -/
def scopedEntries : List (Text × List Text) :=
  [("@app/*".toList, ["src/*".toList]), ("@app/utils/*".toList, ["lib/*".toList, "src/utils/*".toList]),
    ("*".toList, ["vendor/*".toList])]

theorem candidates_longest_utils :
    let base : Path := ⟨"/repo".toList⟩
    let specifier := "@app/utils/fmt".toList
    let before := scopedEntries.take 1
    let after := scopedEntries.drop 2
    (∀ entry ∈ scopedEntries, entry.2 ≠ []) ∧ Specifier.pathKind? specifier = none ∧
      specifier ∉ scopedEntries.map Prod.fst ∧ Matches "@app/utils/*".toList specifier "fmt".toList ∧
      IsLastLongest specifier before "@app/utils/*".toList after ∧
      (ofEntries base false scopedEntries).candidates specifier =
        [⟨"/repo/lib/fmt".toList⟩, ⟨"/repo/src/utils/fmt".toList⟩] := by
  intro base specifier before after
  have full : ∀ entry ∈ scopedEntries, entry.2 ≠ [] := by decide
  have named : Specifier.pathKind? specifier = none := by decide
  have unknown : specifier ∉ scopedEntries.map Prod.fst := by decide
  have matching : Matches "@app/utils/*".toList specifier "fmt".toList :=
    (capture?_eq_some_iff []).1 (by decide)
  have longest : IsLastLongest specifier before "@app/utils/*".toList after := by
    have shorter : ∀ entry ∈ before,
        (Text.upTo '*' entry.1).length ≤ (Text.upTo '*' "@app/utils/*".toList).length := by decide
    have shorterToo : ∀ entry ∈ after,
        (Text.upTo '*' entry.1).length < (Text.upTo '*' "@app/utils/*".toList).length := by decide
    exact ⟨fun entry there _ _ => shorter entry there, fun entry there _ _ => shorterToo entry there⟩
  obtain ⟨-, patterns⟩ := candidates_longest full named base false
  obtain ⟨places, -, -⟩ := patterns (.inr unknown)
  have answer := places before _ _ after _ rfl matching longest
  exact ⟨full, named, unknown, matching, longest, answer.trans (by decide)⟩

/-- Of two patterns with one text before their stars the one that is declared last is taken. -/
theorem candidates_tie :
    let base : Path := ⟨"/repo".toList⟩
    let specifier := "axb".toList
    Matches "a*".toList specifier "xb".toList ∧ Matches "a*b".toList specifier "x".toList ∧
      (ofEntries base false [("a*".toList, ["first/*".toList]), ("a*b".toList, ["second/*".toList])]).candidates
        specifier = [⟨"/repo/second/x".toList⟩] := by
  intro base specifier
  exact ⟨(capture?_eq_some_iff []).1 (by decide), (capture?_eq_some_iff []).1 (by decide), by decide⟩

end ModuleHooks.PathMappings
