import ModuleHooks.Proofs.Package.PrivateNames

/-!
Conditions are a set: of a list of them only those matter that are keys somewhere in a value, and only whether they
are in the list (`targetText?_congr`). Which of several conditions that hold decides is up to the manifest, by the
order of its members (`targetText?_object_eq_some_iff`).
-/
namespace ModuleHooks.Package

mutual

/-- The keys of all objects in a value, at any depth. -/
def keys : Json → List Text
  | .array items => itemKeys items
  | .object members => memberKeys members
  | _ => []

/-- The keys of all objects in the items. -/
def itemKeys : List Json → List Text
  | [] => []
  | item :: items => keys item ++ itemKeys items

/-- The names of the members, with the keys of all objects in their values. -/
def memberKeys : List (Text × Json) → List Text
  | [] => []
  | (name, item) :: members => name :: (keys item ++ memberKeys members)

end

/-- Of the names, both lists of conditions have the same. The default condition holds anyway. -/
def SameAmong (names conditions others : List Text) : Prop :=
  ∀ name ∈ names, name ≠ defaultCondition → (name ∈ conditions ↔ name ∈ others)

section

variable {names more conditions others : List Text} {name text : Text} {target : Json}
  {members : List (Text × Json)}

theorem sameAmong_append :
    SameAmong (names ++ more) conditions others ↔
      SameAmong names conditions others ∧ SameAmong more conditions others :=
  List.forall_mem_append

theorem SameAmong.mono (same : SameAmong names conditions others) (fewer : more ⊆ names) :
    SameAmong more conditions others :=
  fun name there => same name (fewer there)

theorem isActive_congr (same : name ≠ defaultCondition → (name ∈ conditions ↔ name ∈ others)) :
    isActive conditions name = isActive others name := by
  unfold isActive
  by_cases default : name = defaultCondition
  · simp [default]
  · simp [same default]

/-! ## What a target comes to -/

mutual

theorem targetText?_congr (target : Json) (same : SameAmong (keys target) conditions others) :
    targetText? conditions target = targetText? others target := by
  cases target with
  | array items =>
    rw [targetText?, targetText?]
    exact firstItem?_congr items (by rwa [keys] at same)
  | object members =>
    rw [targetText?, targetText?]
    exact firstMember?_congr members (by rwa [keys] at same)
  | string s => simp only [targetText?]
  | null => simp only [targetText?]
  | bool b => simp only [targetText?]
  | number n => simp only [targetText?]

theorem firstItem?_congr (items : List Json) (same : SameAmong (itemKeys items) conditions others) :
    firstItem? conditions items = firstItem? others items := by
  cases items with
  | nil => rfl
  | cons item rest =>
    obtain ⟨here, further⟩ := sameAmong_append.1 same
    rw [firstItem?, firstItem?, targetText?_congr item here, firstItem?_congr rest further]

theorem firstMember?_congr (members : List (Text × Json))
    (same : SameAmong (memberKeys members) conditions others) :
    firstMember? conditions members = firstMember? others members := by
  cases members with
  | nil => rfl
  | cons first rest =>
    obtain ⟨name, item⟩ := first
    obtain ⟨named, inner⟩ := List.forall_mem_cons.1 same
    obtain ⟨here, further⟩ := sameAmong_append.1 inner
    rw [firstMember?, firstMember?, isActive_congr named, targetText?_congr item here,
      firstMember?_congr rest further]

end

/-! ## The order of the members -/

theorem firstMember?_eq_findSome? (conditions : List Text) (members : List (Text × Json)) :
    firstMember? conditions members = members.findSome? fun (name, item) =>
      if isActive conditions name then targetText? conditions item else none := by
  induction members with
  | nil => rfl
  | cons first rest ih =>
    obtain ⟨name, item⟩ := first
    rw [firstMember?, ih, List.findSome?_cons]
    dsimp only
    cases if isActive conditions name then targetText? conditions item else none <;> rfl

/-- An object comes to what the first of its members does whose condition holds and that comes to a text. -/
theorem targetText?_object_eq_some_iff :
    targetText? conditions (.object members) = some text ↔
      ∃ before name item after, members = before ++ (name, item) :: after ∧
        isActive conditions name = true ∧ targetText? conditions item = some text ∧
        ∀ member ∈ before, isActive conditions member.1 = true → targetText? conditions member.2 = none := by
  rw [targetText?, firstMember?_eq_findSome?, List.findSome?_eq_some_iff]
  constructor
  · rintro ⟨before, ⟨name, item⟩, after, rfl, comes, skipped⟩
    obtain ⟨active, comes⟩ := Option.ite_none_right_eq_some.1 comes
    refine ⟨before, name, item, after, rfl, active, comes, fun member there holds => ?_⟩
    simpa [holds] using skipped member there
  · rintro ⟨before, name, item, after, rfl, active, comes, skipped⟩
    refine ⟨before, (name, item), after, rfl, by simpa [active] using comes, fun member there => ?_⟩
    by_cases holds : isActive conditions member.1 = true
    · simpa [holds] using skipped member there holds
    · simp [holds]

/-! ## Maps -/

theorem keys_subset_of_mem (there : (name, target) ∈ members) : keys target ⊆ keys (.object members) := by
  rw [keys]
  induction members with
  | nil => exact nomatch there
  | cons first rest ih =>
    intro key found
    rw [memberKeys]
    rcases List.mem_cons.1 there with rfl | further
    · exact List.mem_cons_of_mem _ (List.mem_append_left _ found)
    · have inner := ih further found
      exact List.mem_cons_of_mem _ (List.mem_append_right _ inner)

theorem keys_subset_of_patternSelection? {star : Option Text}
    (selects : patternSelection? members name = some (target, star)) :
    keys target ⊆ keys (.object members) := by
  obtain ⟨key, -, -, there, -⟩ := mem_of_patternSelection? selects
  exact keys_subset_of_mem there

/-- The keys of a target that a subpath selects are among those of the whole value. -/
theorem keys_subset_of_selection? {exports : Json} {subpath : Text} {star : Option Text}
    (selects : selection? exports subpath = some (target, star)) : keys target ⊆ keys exports := by
  have whole (selects : (if subpath = ['.'] then some (exports, none) else none) = some (target, star)) :
      keys target ⊆ keys exports := by
    obtain ⟨-, same⟩ := Option.ite_none_right_eq_some.1 selects
    cases same
    exact List.Subset.refl _
  unfold selection? at selects
  dsimp only at selects
  split at selects
  case h_1 members =>
    split at selects
    case isTrue =>
      split at selects
      case h_1 found named =>
        split at selects
        case isTrue => exact keys_subset_of_patternSelection? selects
        case isFalse =>
          cases selects
          exact keys_subset_of_mem (Members.mem_of_get? named)
      case h_2 => exact keys_subset_of_patternSelection? selects
    case isFalse => exact whole selects
  case h_2 => exact whole selects

theorem keys_subset_of_privateSelection? {star : Option Text}
    (selects : privateSelection? members name = some (target, star)) :
    keys target ⊆ keys (.object members) := by
  unfold privateSelection? at selects
  split at selects
  case h_1 found named =>
    cases selects
    exact keys_subset_of_mem (Members.mem_of_get? named)
  case h_2 => exact keys_subset_of_patternSelection? selects

end

/-- Exports and imports under two lists of conditions that have the same of the keys anywhere in the value: the
answers are the same, in whatever order the lists name their conditions, how often, what else is in them, and
whether they name the default. Which of the conditions that hold decides is said by the value: the first of the
members whose condition holds and that comes to a text. -/
theorem targets_conditions {value : Json} {conditions others : List Text}
    (same : SameAmong (keys value) conditions others) (name : Text) :
    exported? value conditions name = exported? value others name ∧
    imported? value conditions name = imported? value others name ∧
    ∀ members text, targetText? conditions (.object members) = some text ↔
      ∃ before own item after, members = before ++ (own, item) :: after ∧
        isActive conditions own = true ∧ targetText? conditions item = some text ∧
        ∀ member ∈ before, isActive conditions member.1 = true → targetText? conditions member.2 = none := by
  refine ⟨?_, ?_, fun members text => targetText?_object_eq_some_iff⟩
  · rw [exported?_eq, exported?_eq]
    apply Option.bind_congr
    rintro ⟨target, star⟩ selects
    have alike := targetText?_congr target (same.mono (keys_subset_of_selection? selects))
    rw [selected?, selected?, exportTarget?, exportTarget?, alike]
  · by_cases hashed : name.head? = some '#'
    · cases value with
      | object members =>
        rw [imported?_eq hashed, imported?_eq hashed]
        apply Option.bind_congr
        rintro ⟨target, star⟩ selects
        have alike := targetText?_congr target (same.mono (keys_subset_of_privateSelection? selects))
        dsimp only
        rw [alike]
      | _ => simp only [imported?]
    · simp [imported?, hashed]

/-- A target by conditions in a list and in objects, with the default in front of others. -/
def conditionalExports : Json :=
  .object [("./feature".toList, .array
    [.object [("worker".toList, .string "./worker.js".toList)],
      .object [("node".toList, .object [("import".toList, .string "./node.mjs".toList),
          ("require".toList, .string "./node.cjs".toList)]),
        ("default".toList, .string "./feature.js".toList), ("import".toList, .string "./late.mjs".toList)]])]

theorem targets_conditions_nested :
    let conditions := ["node".toList, "require".toList]
    let others := ["require".toList, "extra".toList, "default".toList, "node".toList, "require".toList]
    SameAmong (keys conditionalExports) conditions others ∧
      exported? conditionalExports conditions "./feature".toList = some "./node.cjs".toList ∧
      exported? conditionalExports others "./feature".toList = some "./node.cjs".toList := by
  intro conditions others
  have same : SameAmong (keys conditionalExports) conditions others := by
    unfold SameAmong
    decide
  obtain ⟨alike, -, -⟩ := targets_conditions same "./feature".toList
  have found : exported? conditionalExports conditions "./feature".toList = some "./node.cjs".toList := by
    decide
  exact ⟨same, found, alike.symm.trans found⟩

end ModuleHooks.Package
