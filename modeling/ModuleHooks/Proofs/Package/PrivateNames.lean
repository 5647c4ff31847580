import ModuleHooks.Proofs.Package.Containment
import ModuleHooks.Proofs.Package.Selection

/-!
Private names beside subpaths. With `./` for the `#` of its keys, a map of private names becomes one of subpaths:
both have the same patterns, and the same one is the most specific for a name. What differs is kept apart in
`imports_exports`: a private name is looked up as a key even if it has stars, and the target of a pattern may
have a step up.
-/
namespace ModuleHooks.Package

/-- The target that a private name selects, and what stands for its stars if it is the target of a pattern. -/
def privateSelection? (members : Members Json) (name : Text) : Option (Json × Option Text) :=
  match Members.get? name members with
  | some target => some (target, none)
  | none => patternSelection? members name

/-- A text with the star in the place of its stars; as it is without a star. -/
def filled : Option Text → Text → Text
  | none, text => text
  | some star, text => Text.fill '*' star text

/-- What a private name is imported as is what the target that it selects comes to. -/
theorem imported?_eq {name : Text} (hashed : name.head? = some '#') (members : Members Json)
    (conditions : List Text) :
    imported? (.object members) conditions name =
      (privateSelection? members name).bind fun (target, star) =>
        (targetText? conditions target).map (filled star) := by
  rw [imported?, if_pos hashed, privateSelection?]
  cases Members.get? name members with
  | some target => exact Option.map_id'.symm
  | none =>
    dsimp only
    rw [patternSelection?]
    cases bestPattern? members name <;> rfl

/-- A star in the place of the stars leaves a text as it is. -/
theorem filled_star (text : Text) : filled (some ['*']) text = text := by
  have kept : ∀ c ∈ text, (if c = '*' then ['*'] else [c]) = [c] := by
    intro c _
    split
    case isTrue same => rw [same]
    case isFalse => rfl
  rw [filled, Text.fill, List.flatMap_congr kept]
  exact List.flatMap_singleton' text

theorem place_eq_filter (star text : Text) :
    place (some star) text = (some (filled (some star) text)).filter fun target => !stepsUp target := by
  rw [place, Option.filter_some, filled]
  cases stepsUp (Text.fill '*' star text) <;> rfl

/-! ## One more character in front -/

/-- The members with a character in front of each name. -/
def behind (c : Char) (members : Members Json) : Members Json :=
  members.map fun (name, target) => (c :: name, target)

section

variable {c : Char} {members : Members Json} {key name : Text} {target : Json}

theorem get?_behind (c : Char) (members : Members Json) (name : Text) :
    Members.get? (c :: name) (behind c members) = Members.get? name members := by
  unfold Members.get?
  induction members with
  | nil => rfl
  | cons first rest ih =>
    rw [behind, List.map_cons, List.lookup_cons, List.lookup_cons]
    have same : (c :: name == c :: first.1) = (name == first.1) := by simp
    rw [same, ← ih]
    rfl

theorem leadOf_cons (plain : c ≠ '*') (key : Text) : leadOf (c :: key) = c :: leadOf key := by
  simp [leadOf, Text.upTo, plain]

theorem starOf?_cons (plain : c ≠ '*') (key name : Text) : starOf? (c :: key) (c :: name) = starOf? key name := by
  unfold starOf?
  rw [Text.cutAt?, if_neg plain]
  cases Text.cutAt? '*' key with
  | none => rfl
  | some parts =>
    obtain ⟨lead, tail⟩ := parts
    have after : Text.after? (c :: lead) (c :: name) = Text.after? lead name :=
      if_pos (beq_self_eq_true c)
    exact congrArg (fun rest => (rest.bind (Text.before? tail)).bind fun star =>
      if star.isEmpty then none else some star) after

theorem moreSpecific_cons (plain : c ≠ '*') (a b : Text) : moreSpecific (c :: a) (c :: b) = moreSpecific a b := by
  have shifted (m n : Nat) : compare (m + 1) (n + 1) = compare m n := by simp [Nat.compare_eq_ite_lt]
  have same : Text.order (c :: a) (c :: b) = Text.order a b := by simp [Text.order]
  rw [moreSpecific_eq, moreSpecific_eq, leadOf_cons plain, leadOf_cons plain, same]
  simp only [List.length_cons, shifted]

/-- The character does not matter to the choice between two matches. -/
theorem better_cons (plain : c ≠ '*') (best : Option (Text × Json × Text)) :
    better (c :: name) (best.map fun (key, found) => (c :: key, found)) (c :: key) target =
      (better name best key target).map fun (key, found) => (c :: key, found) := by
  have counts : (c :: key).count '*' = key.count '*' := List.count_cons_of_ne plain
  unfold better
  rw [counts, starOf?_cons plain]
  split
  case isFalse => rfl
  case isTrue =>
    cases starOf? key name with
    | none => rfl
    | some star =>
      cases best with
      | none => rfl
      | some found =>
        dsimp only [Option.map_some]
        rw [moreSpecific_cons plain]
        split <;> rfl

theorem bestPattern?_behind (plain : c ≠ '*') (members : Members Json) (name : Text) :
    bestPattern? (behind c members) (c :: name) = bestPattern? members name := by
  have passes (best : Option (Text × Json × Text)) :
      (behind c members).foldl (fun best (key, target) => better (c :: name) best key target)
          (best.map fun (key, found) => (c :: key, found)) =
        (members.foldl (fun best (key, target) => better name best key target) best).map
          fun (key, found) => (c :: key, found) := by
    induction members generalizing best with
    | nil => rfl
    | cons first rest ih =>
      rw [behind, List.map_cons, List.foldl_cons, List.foldl_cons, ← ih, ← better_cons plain]
      rfl
  unfold bestPattern?
  rw [← Option.map_none, passes none, Option.map_map]
  rfl

/-! ## The map of subpaths -/

/-- A private name with `./` in the place of its `#`. -/
def subpathOf (name : Text) : Text := '.' :: '/' :: name.tail

/-- The map with `./` in the place of the `#` of each key. -/
def withSubpaths (members : Members Json) : Members Json :=
  members.map fun (name, target) => (subpathOf name, target)

/-- The keys of a map all start with `#`. -/
def ArePrivate (members : Members Json) : Prop := ∀ name ∈ members.map Prod.fst, name.head? = some '#'

theorem exists_behind (hashed : ArePrivate members) :
    ∃ inner, members = behind '#' inner ∧ withSubpaths members = behind '.' (behind '/' inner) := by
  refine ⟨members.map fun (name, target) => (name.tail, target), ?_, ?_⟩
  · have whole : ∀ member ∈ members, member = ('#' :: member.1.tail, member.2) := by
      rintro ⟨name, target⟩ there
      obtain ⟨rest, rfl⟩ := List.head?_eq_some_iff.1 (hashed name (List.mem_map.2 ⟨_, there, rfl⟩))
      rfl
    rw [behind, List.map_map]
    exact (List.map_id members).symm.trans (List.map_congr_left whole)
  · rw [behind, behind, List.map_map, List.map_map]
    rfl

theorem get?_withSubpaths (hashed : ArePrivate members) (rest : Text) :
    Members.get? ('.' :: '/' :: rest) (withSubpaths members) = Members.get? ('#' :: rest) members := by
  obtain ⟨inner, same, renamed⟩ := exists_behind hashed
  rw [renamed, same, get?_behind, get?_behind, get?_behind]

/-- The pattern that is most specific for a private name is so for the subpath. -/
theorem bestPattern?_withSubpaths (hashed : ArePrivate members) (rest : Text) :
    bestPattern? (withSubpaths members) ('.' :: '/' :: rest) = bestPattern? members ('#' :: rest) := by
  obtain ⟨inner, same, renamed⟩ := exists_behind hashed
  rw [renamed, same, bestPattern?_behind (by decide), bestPattern?_behind (by decide),
    bestPattern?_behind (by decide)]

theorem hasSubpaths_withSubpaths (nonempty : members ≠ []) : hasSubpaths (withSubpaths members) = true := by
  obtain ⟨⟨name, target⟩, rest, rfl⟩ := List.exists_cons_of_ne_nil nonempty
  rfl

/-- The map of subpaths selects what the private name does, except that a name with stars is not looked up among
the keys. -/
theorem selection?_withSubpaths (nonempty : members ≠ []) (hashed : ArePrivate members) (rest : Text) :
    selection? (.object (withSubpaths members)) ('.' :: '/' :: rest) =
      if '*' ∈ rest then patternSelection? members ('#' :: rest)
      else privateSelection? members ('#' :: rest) := by
  have pattern : patternSelection? (withSubpaths members) ('.' :: '/' :: rest) =
      patternSelection? members ('#' :: rest) := by
    rw [patternSelection?, patternSelection?, bestPattern?_withSubpaths hashed]
  have starred : ('.' :: '/' :: rest).contains '*' = true ↔ '*' ∈ rest := by simp
  rw [selection?_object (hasSubpaths_withSubpaths nonempty), get?_withSubpaths hashed, pattern,
    privateSelection?]
  cases Members.get? ('#' :: rest) members with
  | none => simp
  | some target => simp only [starred]

/-! ## What the targets come to -/

/-- Where all texts of a target begin in the package, an export of it is whatever it comes to. -/
theorem exportTarget?_eq_targetText? {conditions : List Text}
    (inside : ∀ s, Declares target s → isInside s = true) :
    exportTarget? conditions target = targetText? conditions target := by
  rw [exportTarget?]
  cases comes : targetText? conditions target with
  | none => rfl
  | some text => rw [Option.filter_some, if_pos (inside text (declares_of_targetText? target comes))]

theorem selected?_star {conditions : List Text} (inside : ∀ s, Declares target s → isInside s = true)
    (star : Text) :
    selected? conditions (target, some star) =
      ((targetText? conditions target).map (filled (some star))).filter fun found => !stepsUp found := by
  rw [selected?, exportTarget?_eq_targetText? inside]
  cases targetText? conditions target with
  | none => rfl
  | some text => exact place_eq_filter star text

theorem mem_of_patternSelection? {star : Option Text}
    (selects : patternSelection? members name = some (target, star)) :
    ∃ key own, star = some own ∧ (key, target) ∈ members ∧ Matches key name own := by
  obtain ⟨⟨target, own⟩, best, same⟩ := Option.map_eq_some_iff.1 selects
  cases same
  rcases bestPattern?_spec members name with ⟨-, none⟩ | ⟨key, found, star, -, there, matching, found⟩
  · exact nomatch none.symm.trans best
  · cases found.symm.trans best
    exact ⟨key, _, rfl, there, matching⟩

/-- What the most specific pattern comes to as a subpath is what it comes to as a private name, unless that has a
step up. -/
theorem patternSelection?_selected {conditions : List Text}
    (inside : ∀ s, Declares (.object members) s → isInside s = true) (name : Text) :
    (patternSelection? members name).bind (selected? conditions) =
      ((patternSelection? members name).bind fun (target, star) =>
        (targetText? conditions target).map (filled star)).filter fun found => !stepsUp found := by
  cases selects : patternSelection? members name with
  | none => rfl
  | some selection =>
    obtain ⟨target, star⟩ := selection
    obtain ⟨key, own, rfl, there, -⟩ := mem_of_patternSelection? selects
    exact selected?_star (fun s declared => inside s (.value there declared)) own

/-! ## Names that are keys with stars -/

/-- A front without stars does not reach beyond the first star. -/
theorem length_le_lead {front back lead tail : Text} (plain : '*' ∉ front)
    (whole : lead ++ '*' :: tail = front ++ back) : front.length ≤ lead.length := by
  rcases List.append_eq_append_iff.1 whole with ⟨more, rfl, rest⟩ | ⟨more, rfl, -⟩
  · cases more with
    | nil => simp
    | cons c more =>
      obtain ⟨rfl, -⟩ := List.cons.inj rest
      simp at plain
  · simp

theorem exists_lead (once : name.count '*' = 1) :
    ∃ lead tail, name = lead ++ '*' :: tail ∧ '*' ∉ lead ∧ '*' ∉ tail := by
  cases cut : Text.cutAt? '*' name with
  | none =>
    rw [List.count_eq_zero.2 (Text.notMem_of_cutAt? cut)] at once
    exact nomatch once
  | some parts =>
    obtain ⟨lead, tail⟩ := parts
    obtain ⟨rfl, plainLead⟩ := Text.cutAt?_eq_some cut
    exact ⟨lead, tail, rfl, plainLead, notMem_of_once once plainLead⟩

/-- A key with one star matches itself, and of the keys that do it is the most specific. -/
theorem isMostSpecific_self (named : name ∈ members.map Prod.fst) (once : name.count '*' = 1) :
    Matches name name ['*'] ∧ IsMostSpecific members name name := by
  obtain ⟨lead, tail, rfl, plainLead, plainTail⟩ := exists_lead once
  have own : Matches (lead ++ '*' :: tail) (lead ++ '*' :: tail) ['*'] := by
    have filled := Matches.fill plainLead plainTail (List.cons_ne_nil '*' [])
    rwa [List.append_assoc, List.singleton_append] at filled
  refine ⟨own, ⟨named, ['*'], own⟩, ?_⟩
  rintro other ⟨-, star, matching⟩
  generalize whole : lead ++ '*' :: tail = name at matching
  obtain ⟨plainOther, -, some⟩ := matching
  have positive := List.length_pos_iff.2 some
  have lengths := congrArg List.length whole
  have shorter := length_le_lead plainOther (whole.trans (List.append_assoc _ _ _))
  rw [← whole, leadOf_append plainOther, leadOf_append plainLead]
  simp only [List.length_append, List.length_cons] at lengths ⊢
  omega

theorem patternSelection?_self (distinct : members.IsDistinct) (there : (name, target) ∈ members)
    (once : name.count '*' = 1) : patternSelection? members name = some (target, some ['*']) := by
  obtain ⟨own, most⟩ := isMostSpecific_self (List.mem_map.2 ⟨_, there, rfl⟩) once
  rw [patternSelection?]
  rcases bestPattern?_spec members name with
    ⟨nothing, -⟩ | ⟨key, found, star, mostToo, thereToo, matching, ends⟩
  · exact absurd ⟨name, most.1⟩ nothing
  · obtain rfl := mostToo.unique most
    rw [ends, distinct.value_unique thereToo there, matching.star_unique own]
    rfl

/-- Members that do not match can be left out. -/
theorem bestPattern?_filter {p : Text × Json → Bool}
    (unmatched : ∀ member ∈ members, p member = false → ∀ star, ¬Matches member.1 name star) :
    bestPattern? (members.filter p) name = bestPattern? members name := by
  have passes (best : Option (Text × Json × Text)) :
      (members.filter p).foldl (fun best (key, target) => better name best key target) best =
        members.foldl (fun best (key, target) => better name best key target) best := by
    induction members generalizing best with
    | nil => rfl
    | cons first rest ih =>
      have others := ih fun member there => unmatched member (List.mem_cons_of_mem _ there)
      obtain ⟨key, target⟩ := first
      by_cases kept : p (key, target) = true
      · rw [List.filter_cons_of_pos kept, List.foldl_cons, List.foldl_cons, others]
      · have other := unmatched (key, target) List.mem_cons_self (Bool.eq_false_iff.2 kept)
        rw [List.filter_cons_of_neg kept, List.foldl_cons, others]
        dsimp only
        rw [better_of_unmatched other]
  unfold bestPattern?
  rw [passes none]

/-- A key with more than one star matches nothing, so without it the patterns are the same. -/
theorem privateSelection?_without (many : 2 ≤ name.count '*') :
    privateSelection? (members.filter (·.1 ≠ name)) name = patternSelection? members name := by
  have unknown : name ∉ (members.filter (·.1 ≠ name)).map Prod.fst := by
    intro named
    obtain ⟨member, kept, same⟩ := List.mem_map.1 named
    simpa [same] using (List.mem_filter.1 kept).2
  have patterns : bestPattern? (members.filter (·.1 ≠ name)) name = bestPattern? members name := by
    apply bestPattern?_filter
    intro member there own star matching
    have same : member.1 = name := by simpa using own
    have once := (starOf?_eq_some_iff.2 matching).1
    rw [same] at once
    omega
  rw [privateSelection?, Members.get?_eq_none_iff.2 unknown]
  dsimp only
  rw [patternSelection?, patternSelection?, patterns]

end

/-- A map of private names against the same map as one of subpaths. The most specific pattern and what its star
stands for are the same. For a name that is a key without stars the answers are the same; for one that is no
key, or is one with one star, the export leaves out what has a step up. A name that is a key is imported as the
target of that key, however many stars it has; the export passes over a key with more of them and looks at the
others. -/
theorem imports_exports {members : Members Json} (distinct : members.IsDistinct) (nonempty : members ≠ [])
    (hashed : ArePrivate members) (inside : ∀ s, Declares (.object members) s → isInside s = true)
    (conditions : List Text) (rest : Text) :
    let name := '#' :: rest
    let imported := imported? (.object members) conditions name
    let exported := exported? (.object (withSubpaths members)) conditions ('.' :: '/' :: rest)
    bestPattern? (withSubpaths members) ('.' :: '/' :: rest) = bestPattern? members name ∧
    (name ∈ members.map Prod.fst → '*' ∉ name → exported = imported) ∧
    (name ∉ members.map Prod.fst ∨ name.count '*' = 1 →
      exported = imported.filter fun found => !stepsUp found) ∧
    (∀ target, (name, target) ∈ members → imported = targetText? conditions target) ∧
    (2 ≤ name.count '*' →
      exported = (imported? (.object (members.filter (·.1 ≠ name))) conditions name).filter
        fun found => !stepsUp found) := by
  intro name imported exported
  have marked : name.head? = some '#' := rfl
  have imports (others : Members Json) := imported?_eq marked others conditions
  have starred : '*' ∈ rest ↔ '*' ∈ name := by simp [name]
  have exports : exported = (if '*' ∈ name then patternSelection? members name
      else privateSelection? members name).bind (selected? conditions) := by
    refine (exported?_eq _ conditions _).trans ?_
    rw [selection?_withSubpaths nonempty hashed]
    simp only [starred]
    rfl
  have taken {target : Json} (there : (name, target) ∈ members) :
      privateSelection? members name = some (target, none) := by
    rw [privateSelection?, (Members.get?_eq_some_iff distinct).2 there]
  have literal {target : Json} (there : (name, target) ∈ members) :
      imported = targetText? conditions target := by
    refine (imports members).trans ?_
    rw [taken there]
    exact Option.map_id'
  refine ⟨bestPattern?_withSubpaths hashed rest, ?_, ?_, fun target there => literal there, ?_⟩
  · intro named plain
    obtain ⟨⟨_, target⟩, there, rfl⟩ := List.mem_map.1 named
    rw [literal there, exports, if_neg plain, taken there, Option.bind_some, selected?_whole]
    exact exportTarget?_eq_targetText? fun s declared => inside s (.value there declared)
  · intro plain
    by_cases named : name ∈ members.map Prod.fst
    · have once := plain.resolve_left (not_not_intro named)
      obtain ⟨⟨_, target⟩, there, rfl⟩ := List.mem_map.1 named
      have star : '*' ∈ name := List.count_pos_iff.1 (by omega)
      rw [literal there, exports, if_pos star, patternSelection?_self distinct there once,
        Option.bind_some, selected?_star (fun s declared => inside s (.value there declared)),
        Option.map_congr fun text _ => filled_star text, Option.map_id']
    · have unknown : privateSelection? members name = patternSelection? members name := by
        rw [privateSelection?, Members.get?_eq_none_iff.2 named]
      have found : imported = _ := imports members
      rw [exports, unknown, ite_self, found, unknown]
      exact patternSelection?_selected inside name
  · intro many
    have star : '*' ∈ name := List.count_pos_iff.1 (by omega)
    rw [exports, if_pos star, imports, privateSelection?_without many]
    exact patternSelection?_selected inside name

/-- Private names of a package: scripts by name, and one that is chosen by condition. -/
def privateNames : Members Json :=
  [("#utils/*".toList, .string "./src/utils/*.js".toList),
    ("#internal".toList, .object [("require".toList, .string "./internal.cjs".toList),
      ("default".toList, .string "./internal.js".toList)])]

theorem isInside_privateNames (s : Text) (declared : Declares (.object privateNames) s) : isInside s = true := by
  cases declared with
  | value member inside =>
    rcases List.mem_cons.1 member with same | member
    · cases same
      cases inside
      decide
    · cases List.mem_singleton.1 member
      cases inside with
      | value member inside =>
        rcases List.mem_cons.1 member with same | member
        · cases same
          cases inside
          decide
        · cases List.mem_singleton.1 member
          cases inside
          decide

theorem imports_exports_utils :
    let exports : Json := .object (withSubpaths privateNames)
    privateNames.IsDistinct ∧ privateNames ≠ [] ∧ ArePrivate privateNames ∧
      (∀ s, Declares (.object privateNames) s → isInside s = true) ∧
      exported? exports ["require".toList] "./internal".toList =
        imported? (.object privateNames) ["require".toList] "#internal".toList ∧
      exported? exports [] "./utils/fmt".toList = some "./src/utils/fmt.js".toList ∧
      imported? (.object privateNames) [] "#utils/fmt".toList = some "./src/utils/fmt.js".toList := by
  intro exports
  have distinct : privateNames.IsDistinct := by decide
  have nonempty : privateNames ≠ [] := List.cons_ne_nil _ _
  have hashed : ArePrivate privateNames := by
    unfold ArePrivate
    decide
  obtain ⟨-, same, -⟩ :=
    imports_exports distinct nonempty hashed isInside_privateNames ["require".toList] "internal".toList
  obtain ⟨-, -, level, -⟩ :=
    imports_exports distinct nonempty hashed isInside_privateNames [] "utils/fmt".toList
  have found : imported? (.object privateNames) [] "#utils/fmt".toList =
      some "./src/utils/fmt.js".toList := by decide
  refine ⟨distinct, nonempty, hashed, isInside_privateNames, same (by decide) (by decide), ?_, found⟩
  exact (level (.inl (by decide))).trans (by decide)

/-- A private name reaches out of the directory of its pattern, and one with two stars is taken as a key; the
subpaths are refused. -/
theorem imports_unlike_exports :
    let stepping : Members Json := [("#a/*".toList, .string "./lib/*".toList)]
    let starred : Members Json := [("#a/*/*".toList, .string "./lib.js".toList)]
    imported? (.object stepping) [] "#a/../../x".toList = some "./lib/../../x".toList ∧
      exported? (.object (withSubpaths stepping)) [] "./a/../../x".toList = none ∧
      imported? (.object starred) [] "#a/*/*".toList = some "./lib.js".toList ∧
      exported? (.object (withSubpaths starred)) [] "./a/*/*".toList = none := by
  decide

end ModuleHooks.Package
