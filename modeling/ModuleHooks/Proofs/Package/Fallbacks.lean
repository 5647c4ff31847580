import ModuleHooks.Proofs.Package.Selection

/-!
Lists of targets to fall back on. A list should come to the first of its items that comes to something valid
(`valid?_array_eq_some_iff`), whatever stands in lists and objects around it. An export takes the first text
that there is at all and looks only then whether it is valid; the two agree as long as that text is.
-/
namespace ModuleHooks.Package

mutual

/-- The text that a target comes to if a list takes its first item that comes to a valid one. -/
def chosenText? (conditions : List Text) : Json → Option Text
  | .string s => some s
  | .array items => chosenItem? conditions items
  | .object members => chosenMember? conditions members
  | _ => none

/-- The text of the first item that comes to a valid one. -/
def chosenItem? (conditions : List Text) : List Json → Option Text
  | [] => none
  | item :: items => ((chosenText? conditions item).filter isInside).or (chosenItem? conditions items)

/-- The text of the first member whose condition holds and which comes to one. -/
def chosenMember? (conditions : List Text) : List (Text × Json) → Option Text
  | [] => none
  | (name, item) :: members =>
    (if isActive conditions name then chosenText? conditions item else none).or
      (chosenMember? conditions members)

end

/-- The valid text that a target comes to. -/
def valid? (conditions : List Text) (target : Json) : Option Text :=
  (chosenText? conditions target).filter isInside

/-- The target of a subpath if every list takes its first item that comes to a valid text. -/
def firstValid? (exports : Json) (conditions : List Text) (subpath : Text) : Option Text :=
  (selection? exports subpath).bind fun (target, star) => (valid? conditions target).bind (place star)

mutual

/-- All texts that a target has under the conditions, in order. -/
def texts (conditions : List Text) : Json → List Text
  | .string s => [s]
  | .array items => itemTexts conditions items
  | .object members => memberTexts conditions members
  | _ => []

/-- All texts that the items have. -/
def itemTexts (conditions : List Text) : List Json → List Text
  | [] => []
  | item :: items => texts conditions item ++ itemTexts conditions items

/-- All texts that the members have whose condition holds. -/
def memberTexts (conditions : List Text) : List (Text × Json) → List Text
  | [] => []
  | (name, item) :: members =>
    (if isActive conditions name then texts conditions item else []) ++ memberTexts conditions members

end

/-! ## The first text -/

mutual

/-- A target comes to the first of its texts, valid or not. -/
theorem targetText?_eq_head? (conditions : List Text) (target : Json) :
    targetText? conditions target = (texts conditions target).head? := by
  cases target with
  | string s => simp [targetText?, texts]
  | array items => simpa [targetText?, texts] using firstItem?_eq_head? conditions items
  | object members => simpa [targetText?, texts] using firstMember?_eq_head? conditions members
  | null => simp [targetText?, texts]
  | bool b => simp [targetText?, texts]
  | number n => simp [targetText?, texts]

theorem firstItem?_eq_head? (conditions : List Text) (items : List Json) :
    firstItem? conditions items = (itemTexts conditions items).head? := by
  cases items with
  | nil => simp [firstItem?, itemTexts]
  | cons item rest =>
    rw [itemTexts, List.head?_append, ← targetText?_eq_head? conditions item,
      ← firstItem?_eq_head? conditions rest, firstItem?]
    cases targetText? conditions item <;> rfl

theorem firstMember?_eq_head? (conditions : List Text) (members : List (Text × Json)) :
    firstMember? conditions members = (memberTexts conditions members).head? := by
  cases members with
  | nil => simp [firstMember?, memberTexts]
  | cons first rest =>
    obtain ⟨name, item⟩ := first
    rw [memberTexts, List.head?_append, ← firstMember?_eq_head? conditions rest, firstMember?]
    by_cases active : isActive conditions name = true
    · rw [if_pos active, if_pos active, ← targetText?_eq_head? conditions item]
      cases targetText? conditions item <;> rfl
    · rw [if_neg active, if_neg active]
      rfl

end

/-! ## The first valid text -/

/-- Without texts nothing is chosen, and a first text that is valid is. -/
def Heeds (texts : List Text) (chosen : Option Text) : Prop :=
  (texts = [] → chosen = none) ∧ ∀ text, texts.head? = some text → isInside text = true → chosen = some text

section

variable {first second : List Text} {chosen other : Option Text}

theorem Heeds.nothing : Heeds [] none := ⟨fun _ => rfl, nofun⟩

theorem Heeds.filter (heeds : Heeds first chosen) : Heeds first (chosen.filter isInside) := by
  refine ⟨fun empty => ?_, fun text head inside => ?_⟩
  · rw [heeds.1 empty, Option.filter_none]
  · rw [heeds.2 text head inside, Option.filter_some, if_pos inside]

theorem Heeds.or (heeds : Heeds first chosen) (further : Heeds second other) :
    Heeds (first ++ second) (chosen.or other) := by
  cases first with
  | nil => rwa [heeds.1 rfl, Option.none_or, List.nil_append]
  | cons text rest =>
    refine ⟨nofun, fun head same inside => ?_⟩
    rw [heeds.2 head same inside, Option.some_or]

end

mutual

theorem heeds_chosenText? (conditions : List Text) (target : Json) :
    Heeds (texts conditions target) (chosenText? conditions target) := by
  cases target with
  | string s =>
    rw [texts, chosenText?]
    exact ⟨nofun, fun text head _ => head⟩
  | array items =>
    rw [texts, chosenText?]
    exact heeds_chosenItem? conditions items
  | object members =>
    rw [texts, chosenText?]
    exact heeds_chosenMember? conditions members
  | null => exact .nothing
  | bool b => exact .nothing
  | number n => exact .nothing

theorem heeds_chosenItem? (conditions : List Text) (items : List Json) :
    Heeds (itemTexts conditions items) (chosenItem? conditions items) := by
  cases items with
  | nil => exact .nothing
  | cons item rest =>
    rw [itemTexts, chosenItem?]
    exact (heeds_chosenText? conditions item).filter.or (heeds_chosenItem? conditions rest)

theorem heeds_chosenMember? (conditions : List Text) (members : List (Text × Json)) :
    Heeds (memberTexts conditions members) (chosenMember? conditions members) := by
  cases members with
  | nil => exact .nothing
  | cons first rest =>
    obtain ⟨name, item⟩ := first
    rw [memberTexts, chosenMember?]
    split
    case isTrue => exact (heeds_chosenText? conditions item).or (heeds_chosenMember? conditions rest)
    case isFalse => exact Heeds.nothing.or (heeds_chosenMember? conditions rest)

end

section

variable {conditions : List Text} {items : List Json} {target : Json} {s : Text}

theorem chosenItem?_eq_findSome? : chosenItem? conditions items = items.findSome? (valid? conditions) := by
  induction items with
  | nil => rfl
  | cons item rest ih =>
    rw [chosenItem?, ih, List.findSome?_cons, ← valid?]
    cases valid? conditions item <;> rfl

/-- What a list comes to is valid anyway. -/
theorem valid?_array : valid? conditions (.array items) = items.findSome? (valid? conditions) := by
  rw [valid?, chosenText?, chosenItem?_eq_findSome?]
  cases found : items.findSome? (valid? conditions) with
  | none => rfl
  | some text =>
    obtain ⟨item, -, comes⟩ := List.exists_of_findSome?_eq_some found
    rw [Option.filter_some, if_pos (Option.filter_eq_some_iff.1 comes).2]

/-- A list takes the first of its items that comes to a valid text; before it there are only items that come
to nothing or to a text that is not. -/
theorem valid?_array_eq_some_iff :
    valid? conditions (.array items) = some s ↔
      ∃ before item after, items = before ++ item :: after ∧ valid? conditions item = some s ∧
        ∀ skipped ∈ before, valid? conditions skipped = none := by
  rw [valid?_array, List.findSome?_eq_some_iff]

theorem valid?_array_eq_none_iff :
    valid? conditions (.array items) = none ↔ ∀ item ∈ items, valid? conditions item = none := by
  rw [valid?_array, List.findSome?_eq_none_iff]

/-! ## Exports -/

/-- An export never takes another text than the first valid one. -/
theorem valid?_of_exportTarget? (exported : exportTarget? conditions target = some s) :
    valid? conditions target = some s := by
  obtain ⟨comes, inside⟩ := Option.filter_eq_some_iff.1 exported
  rw [targetText?_eq_head?] at comes
  rw [valid?, (heeds_chosenText? conditions target).2 s comes inside, Option.filter_some, if_pos inside]

theorem exportTarget?_eq_none (head : (texts conditions target).head? = some s) (outside : isInside s = false) :
    exportTarget? conditions target = none := by
  rw [exportTarget?, targetText?_eq_head?, head, Option.filter_some, outside]
  rfl

/-- An export takes the first valid text unless a text that is not valid stands in front. -/
theorem exportTarget?_eq_valid?
    (first : ∀ text, (texts conditions target).head? = some text → isInside text = true) :
    exportTarget? conditions target = valid? conditions target := by
  have heeds := heeds_chosenText? conditions target
  rw [exportTarget?, valid?, targetText?_eq_head?]
  cases head : (texts conditions target).head? with
  | none => rw [heeds.1 (List.head?_eq_none_iff.1 head)]
  | some text => rw [heeds.2 text head (first text head)]

end

/-- An export is never anything but what comes of taking, in each list at any depth, the first item that comes
to a valid text, whatever else the items before it come to. It is that, unless the first text of the target
that the subpath selects is not valid; then it is nothing. -/
theorem exports_firstValid (exports : Json) (conditions : List Text) (subpath : Text) :
    (∀ found, exported? exports conditions subpath = some found →
      firstValid? exports conditions subpath = some found) ∧
    ((∀ target star text, selection? exports subpath = some (target, star) →
        (texts conditions target).head? = some text → isInside text = true) →
      exported? exports conditions subpath = firstValid? exports conditions subpath ∧
      ∀ items, selection? exports subpath = some (.array items, none) →
        exported? exports conditions subpath = none → ∀ item ∈ items, valid? conditions item = none) ∧
    (∀ target star text, selection? exports subpath = some (target, star) →
      (texts conditions target).head? = some text → isInside text = false →
      exported? exports conditions subpath = none) ∧
    ∀ items text, valid? conditions (.array items) = some text ↔
      ∃ before item after, items = before ++ item :: after ∧ valid? conditions item = some text ∧
        ∀ skipped ∈ before, valid? conditions skipped = none := by
  refine ⟨?_, ?_, ?_, fun items text => valid?_array_eq_some_iff⟩
  · intro found exported
    rw [exported?_eq] at exported
    obtain ⟨⟨target, star⟩, selects, exported⟩ := Option.bind_eq_some_iff.1 exported
    obtain ⟨text, comes, placed⟩ := Option.bind_eq_some_iff.1 exported
    refine Option.bind_eq_some_iff.2 ⟨_, selects, ?_⟩
    exact Option.bind_eq_some_iff.2 ⟨text, valid?_of_exportTarget? comes, placed⟩
  · intro first
    have agrees : exported? exports conditions subpath = firstValid? exports conditions subpath := by
      rw [exported?_eq, firstValid?]
      cases selects : selection? exports subpath with
      | none => rfl
      | some selected =>
        obtain ⟨target, star⟩ := selected
        rw [Option.bind_some, selected?, exportTarget?_eq_valid? (first target star · selects)]
        rfl
    refine ⟨agrees, fun items selects none => ?_⟩
    rw [agrees, firstValid?, selects] at none
    exact valid?_array_eq_none_iff.1 ((Option.bind_fun_some _).symm.trans none)
  · intro target star text selects head outside
    rw [exported?_eq, selects, Option.bind_some, selected?, exportTarget?_eq_none head outside]
    rfl

/-- A list in which the items at the front come to nothing, and later ones to texts outside the package. -/
def fallbackExports : Json :=
  .object [(['.'], .array [.object [("worker".toList, .string "./worker.js".toList)],
    .object [("node".toList, .array [.null, .string "./main.js".toList, .string "main.js".toList])],
    .string "late.js".toList])]

theorem texts_fallbackExports (target : Json) (star : Option Text) (text : Text)
    (selects : selection? fallbackExports ['.'] = some (target, star))
    (head : (texts ["node".toList] target).head? = some text) : isInside text = true := by
  obtain ⟨rfl, rfl⟩ : _ = target ∧ _ = star := Prod.mk.inj (Option.some.inj selects)
  obtain rfl : "./main.js".toList = text := Option.some.inj head
  decide

theorem exports_firstValid_nested :
    let conditions := ["node".toList]
    (∀ target star text, selection? fallbackExports ['.'] = some (target, star) →
      (texts conditions target).head? = some text → isInside text = true) ∧
    firstValid? fallbackExports conditions ['.'] = some "./main.js".toList ∧
    exported? fallbackExports conditions ['.'] = firstValid? fallbackExports conditions ['.'] := by
  intro conditions
  obtain ⟨never, agrees, -⟩ := exports_firstValid fallbackExports conditions ['.']
  exact ⟨texts_fallbackExports, never _ (by decide), (agrees texts_fallbackExports).1⟩

/-- A text outside the package at the front of a list hides the valid one behind it. -/
theorem exports_outsideFirst :
    let exports : Json := .array [.string "main.js".toList, .string "./main.js".toList]
    exported? exports [] ['.'] = none ∧ firstValid? exports [] ['.'] = some "./main.js".toList := by
  decide

end ModuleHooks.Package
