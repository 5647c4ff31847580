import ModuleHooks.Proofs.Package.Fallbacks

/-!
Nulls in targets. In a target without lists a null could end the search, for the object that it stands in and for
all around it; this is a third outcome beside a text and no match. An export knows two outcomes only, so a null
keeps out less specific keys but not what follows it in its own target: `exports_excluded` says which text
comes through.
-/
namespace ModuleHooks.Package

/-- How the search through a target ends, if a null ends it. -/
inductive Outcome
  | found (text : Text)
  | excluded
  | noMatch
deriving DecidableEq, Repr

mutual

/-- The outcome of a target: an object takes that of the first member, in order, whose condition holds and
which has one. -/
def outcome (conditions : List Text) : Json → Outcome
  | .string s => .found s
  | .null => .excluded
  | .object members => memberOutcome conditions members
  | _ => .noMatch

/-- The outcome of the first member whose condition holds and which has one. -/
def memberOutcome (conditions : List Text) : List (Text × Json) → Outcome
  | [] => .noMatch
  | (name, item) :: members =>
    match if isActive conditions name then outcome conditions item else .noMatch with
    | .noMatch => memberOutcome conditions members
    | decided => decided

end

mutual

/-- Whether there is no list in a target, at any depth. -/
def isListFree : Json → Bool
  | .array _ => false
  | .object members => areListFree members
  | _ => true

/-- Whether there is no list in the members. -/
def areListFree : List (Text × Json) → Bool
  | [] => true
  | (_, item) :: members => isListFree item && areListFree members

end

/-- The members come to nothing: those whose condition holds do not match. -/
def Passes (conditions : List Text) (members : List (Text × Json)) : Prop :=
  ∀ member ∈ members, isActive conditions member.1 = true → outcome conditions member.2 = .noMatch

/-- A null decides the target, and `later` are the texts behind it: those of the members that follow in its
object, then in the object around that, and so on. -/
inductive Excludes (conditions : List Text) : Json → List Text → Prop
  | null : Excludes conditions .null []
  | member {before after : List (Text × Json)} {name : Text} {item : Json} {later : List Text}
      (passes : Passes conditions before) (active : isActive conditions name = true)
      (inside : Excludes conditions item later) :
      Excludes conditions (.object (before ++ (name, item) :: after)) (later ++ memberTexts conditions after)

section

variable {conditions : List Text} {target item : Json} {members before after : List (Text × Json)}
  {name : Text}

/-! ## Members -/

theorem passes_cons : Passes conditions ((name, item) :: members) ↔
    (isActive conditions name = true → outcome conditions item = .noMatch) ∧ Passes conditions members :=
  List.forall_mem_cons

theorem memberOutcome_cons_of_active (active : isActive conditions name = true)
    (matched : outcome conditions item ≠ .noMatch) :
    memberOutcome conditions ((name, item) :: members) = outcome conditions item := by
  rw [memberOutcome, if_pos active]
  cases decides : outcome conditions item with
  | noMatch => exact absurd decides matched
  | found text => rfl
  | excluded => rfl

theorem memberOutcome_cons_of_passes
    (passes : isActive conditions name = true → outcome conditions item = .noMatch) :
    memberOutcome conditions ((name, item) :: members) = memberOutcome conditions members := by
  have here : (if isActive conditions name then outcome conditions item else .noMatch) = .noMatch := by
    split
    case isTrue active => exact passes active
    case isFalse => rfl
  rw [memberOutcome, here]

theorem memberOutcome_append (passes : Passes conditions before) (members : List (Text × Json)) :
    memberOutcome conditions (before ++ members) = memberOutcome conditions members := by
  induction before with
  | nil => rfl
  | cons first rest ih =>
    obtain ⟨here, further⟩ := passes_cons.1 passes
    rw [List.cons_append, memberOutcome_cons_of_passes here, ih further]

theorem passes_or_decides (conditions : List Text) (name : Text) (item : Json) :
    (isActive conditions name = true → outcome conditions item = .noMatch) ∨
      isActive conditions name = true ∧ outcome conditions item ≠ .noMatch := by
  by_cases unmatched : outcome conditions item = .noMatch
  · exact .inl fun _ => unmatched
  · by_cases active : isActive conditions name = true
    · exact .inr ⟨active, unmatched⟩
    · exact .inl fun holds => absurd holds active

theorem memberTexts_append (before after : List (Text × Json)) :
    memberTexts conditions (before ++ after) = memberTexts conditions before ++ memberTexts conditions after := by
  induction before with
  | nil => rfl
  | cons first rest ih => rw [List.cons_append, memberTexts, memberTexts, ih, List.append_assoc]

theorem areListFree_iff : areListFree members = true ↔ ∀ member ∈ members, isListFree member.2 = true := by
  induction members with
  | nil => simp [areListFree]
  | cons first rest ih => simp [areListFree, ih]

end

/-! ## Outcomes and texts -/

/-- What an outcome says about the texts of a target: a text that is found is the first of them, and without a
match there is none. -/
def Tells (texts : List Text) : Outcome → Prop
  | .found text => texts.head? = some text
  | .excluded => True
  | .noMatch => texts = []

theorem Tells.append {first : List Text} {decided : Outcome} (tells : Tells first decided)
    (matched : decided ≠ .noMatch) (second : List Text) : Tells (first ++ second) decided := by
  cases decided with
  | found text =>
    rw [Tells] at tells ⊢
    rw [List.head?_append, tells, Option.some_or]
  | excluded => trivial
  | noMatch => exact absurd rfl matched

mutual

theorem tells_outcome (conditions : List Text) (target : Json) (plain : isListFree target = true) :
    Tells (texts conditions target) (outcome conditions target) := by
  cases target with
  | string s =>
    rw [texts, outcome]
    exact rfl
  | array items => exact nomatch plain
  | object members =>
    rw [texts, outcome]
    exact tells_memberOutcome conditions members (by rwa [isListFree] at plain)
  | null => exact trivial
  | bool b => exact rfl
  | number n => exact rfl

theorem tells_memberOutcome (conditions : List Text) (members : List (Text × Json))
    (plain : areListFree members = true) :
    Tells (memberTexts conditions members) (memberOutcome conditions members) := by
  cases members with
  | nil => exact rfl
  | cons first rest =>
    obtain ⟨name, item⟩ := first
    obtain ⟨plainHere, plainRest⟩ := Bool.and_eq_true_iff.1 plain
    have further := tells_memberOutcome conditions rest plainRest
    rw [memberTexts]
    by_cases active : isActive conditions name = true
    · have here := tells_outcome conditions item plainHere
      rw [if_pos active]
      by_cases matched : outcome conditions item = .noMatch
      · have nothing : texts conditions item = [] := by rwa [matched] at here
        rw [memberOutcome_cons_of_passes fun _ => matched, nothing]
        exact further
      · rw [memberOutcome_cons_of_active active matched]
        exact here.append matched _
    · rw [if_neg active, memberOutcome_cons_of_passes fun holds => absurd holds active]
      exact further

end

section

variable {conditions : List Text} {target item : Json} {members : List (Text × Json)} {name : Text}
  {later : List Text}

/-! ## The null that decides -/

theorem Excludes.cons (passes : isActive conditions name = true → outcome conditions item = .noMatch)
    (excludes : Excludes conditions (.object members) later) :
    Excludes conditions (.object ((name, item) :: members)) later := by
  cases excludes with
  | member before active inside => exact .member (passes_cons.2 ⟨passes, before⟩) active inside

mutual

theorem exists_excludes (target : Json) (excluded : outcome conditions target = .excluded) :
    ∃ later, Excludes conditions target later := by
  cases target with
  | null => exact ⟨[], .null⟩
  | object members => exact exists_excludes_object members (by rwa [outcome] at excluded)
  | string s => simp [outcome] at excluded
  | array items => simp [outcome] at excluded
  | bool b => simp [outcome] at excluded
  | number n => simp [outcome] at excluded

theorem exists_excludes_object (members : List (Text × Json))
    (excluded : memberOutcome conditions members = .excluded) :
    ∃ later, Excludes conditions (.object members) later := by
  cases members with
  | nil => simp [memberOutcome] at excluded
  | cons first rest =>
    obtain ⟨name, item⟩ := first
    rcases passes_or_decides conditions name item with passes | ⟨active, matched⟩
    · rw [memberOutcome_cons_of_passes passes] at excluded
      obtain ⟨later, excludes⟩ := exists_excludes_object rest excluded
      exact ⟨later, excludes.cons passes⟩
    · rw [memberOutcome_cons_of_active active matched] at excluded
      obtain ⟨later, inside⟩ := exists_excludes item excluded
      have first : Passes conditions [] := nofun
      exact ⟨_, .member first active inside⟩

end

theorem Excludes.outcome (excludes : Excludes conditions target later) :
    Package.outcome conditions target = .excluded := by
  induction excludes with
  | null => rfl
  | @member before after name item later passes active inside ih =>
    have matched : Package.outcome conditions item ≠ .noMatch := by
      rw [ih]
      exact Outcome.noConfusion
    rw [Package.outcome, memberOutcome_append passes, memberOutcome_cons_of_active active matched, ih]

/-- All texts of a target that a null decides stand behind that null. -/
theorem Excludes.texts (excludes : Excludes conditions target later) (plain : isListFree target = true) :
    Package.texts conditions target = later := by
  induction excludes with
  | null => rfl
  | @member before after name item later passes active inside ih =>
    rw [isListFree, areListFree_iff] at plain
    have plainBefore : areListFree before = true :=
      areListFree_iff.2 fun member there => plain member (List.mem_append_left _ there)
    have plainItem : isListFree item = true := plain (name, item) (by simp)
    have nothing : memberTexts conditions before = [] := by
      have tells := tells_memberOutcome conditions before plainBefore
      have unmatched := memberOutcome_append passes []
      rw [List.append_nil] at unmatched
      rwa [unmatched] at tells
    rw [Package.texts, memberTexts_append, nothing, List.nil_append, memberTexts, if_pos active, ih plainItem]

end

/-- An export against the evaluation in which a null ends the search, for a target without lists. Where that
finds a text the export has it, and where nothing matches it has nothing. Where a null decides, the export goes on
to the first text behind that null, in a later member of the same object or of one around it; only without one
is the subpath excluded. -/
theorem exports_excluded {exports target : Json} {subpath : Text} {star : Option Text} (conditions : List Text)
    (selects : selection? exports subpath = some (target, star)) (plain : isListFree target = true) :
    let answer := exported? exports conditions subpath
    (∀ text, outcome conditions target = .found text →
      answer = if isInside text then place star text else none) ∧
    (outcome conditions target = .noMatch → answer = none) ∧
    (outcome conditions target = .excluded ↔ ∃ later, Excludes conditions target later) ∧
    ∀ later, Excludes conditions target later → answer = (later.head?.filter isInside).bind (place star) := by
  intro answer
  have comes : answer = ((texts conditions target).head?.filter isInside).bind (place star) := by
    rw [← targetText?_eq_head?]
    exact (exported?_eq exports conditions subpath).trans (by rw [selects]; rfl)
  have tells := tells_outcome conditions target plain
  refine ⟨?_, ?_, ?_, ?_⟩
  · intro text finds
    have head : (texts conditions target).head? = some text := by rwa [finds] at tells
    rw [comes, head, Option.filter_some]
    split <;> rfl
  · intro unmatched
    have nothing : texts conditions target = [] := by rwa [unmatched] at tells
    rw [comes, nothing]
    rfl
  · constructor
    · exact exists_excludes target
    · rintro ⟨later, excludes⟩
      exact excludes.outcome
  · intro later excludes
    rw [comes, excludes.texts plain]

/-- A target with a null in an inner object, and texts behind it there and around it. -/
def shutTarget : Json :=
  .object [("browser".toList, .string "./browser.js".toList),
    ("node".toList, .object [("worker".toList, .string "./worker.js".toList), ("import".toList, .null),
      ("module".toList, .string "./module.js".toList)]),
    ("default".toList, .string "./main.js".toList)]

theorem exports_excluded_inner :
    let exports : Json := .object [(['.'], shutTarget)]
    let conditions := ["import".toList, "node".toList]
    selection? exports ['.'] = some (shutTarget, none) ∧ isListFree shutTarget = true ∧
      outcome ["browser".toList] shutTarget = .found "./browser.js".toList ∧
      exported? exports ["browser".toList] ['.'] = some "./browser.js".toList ∧
      Excludes conditions shutTarget ["./main.js".toList] ∧
      exported? exports conditions ['.'] = some "./main.js".toList := by
  intro exports conditions
  have selects : selection? exports ['.'] = some (shutTarget, none) := rfl
  have plain : isListFree shutTarget = true := rfl
  have finds : outcome ["browser".toList] shutTarget = .found "./browser.js".toList := by decide
  obtain ⟨found, -, -, -⟩ := exports_excluded ["browser".toList] selects plain
  obtain ⟨-, -, decided, through⟩ := exports_excluded conditions selects plain
  obtain ⟨later, excludes⟩ := decided.1 (by decide)
  obtain rfl : ["./main.js".toList] = later := excludes.texts plain
  exact ⟨selects, plain, finds, found _ finds, excludes, through _ excludes⟩

/-- A null whose condition holds does not keep out the member behind it. -/
theorem exports_null_passed :
    let target : Json := .object [("import".toList, .null), ("default".toList, .string "./main.js".toList)]
    let exports : Json := .object [(['.'], target)]
    outcome ["import".toList] target = .excluded ∧
      exported? exports ["import".toList] ['.'] = some "./main.js".toList := by
  decide

end ModuleHooks.Package
