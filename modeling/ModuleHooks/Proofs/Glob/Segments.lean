import Mathlib.Algebra.GroupWithZero.Nat
import Mathlib.Data.List.Infix
import ModuleHooks.Glob.Listing
import ModuleHooks.Proofs.Glob.Reading
import ModuleHooks.Proofs.Path.Normal

/-!
The segments of a pattern and the names of a path. Each segment takes one name that it matches, but two stars
take any number of names, and something has to be left for the segment behind them (`Fits`). The same names can
be shared out in more than one way (`ways`, `fits_iff`); with two stars in one place at most there is one way
only (`ways_le_one`).
-/
namespace ModuleHooks.Glob

open ModuleHooks.Path

/-- The segments take the names, each name one segment: the last segment takes the last name. -/
inductive Fits : List Text → List Text → Prop
  | last {segment name : Text} (single : segment ≠ anyNames) (matched : matchText segment name = true) :
      Fits [segment] [name]
  | next {segment name : Text} {segments names : List Text} (single : segment ≠ anyNames)
      (matched : matchText segment name = true) (further : Fits segments names) :
      Fits (segment :: segments) (name :: names)
  | enough {segments names : List Text} (further : Fits segments names) : Fits (anyNames :: segments) names
  | more {name : Text} {segments names : List Text} (further : Fits (anyNames :: segments) names) :
      Fits (anyNames :: segments) (name :: names)

/-- In how many ways the segments take the names. Two stars behind two stars say nothing more. -/
def ways : List Text → List Text → Nat
  | [], _ => 0
  | segment :: segments, names =>
    if segment = anyNames then
      if segments.head? = some anyNames then ways segments names else (names.tails.map (ways segments)).sum
    else
      match names with
      | [] => 0
      | name :: names =>
        if matchText segment name then
          if segments.isEmpty then if names.isEmpty then 1 else 0
          else ways segments names
        else 0

variable {segment name : Text} {segments names : List Text}

/-! ## Two stars -/

theorem ways_anyNames (single : segments.head? ≠ some anyNames) :
    ways (anyNames :: segments) names = (names.tails.map (ways segments)).sum :=
  (if_pos rfl).trans (if_neg single)

theorem ways_anyNames_twice :
    ways (anyNames :: anyNames :: segments) names = ways (anyNames :: segments) names :=
  (if_pos rfl).trans (if_pos rfl)

/-- Two stars take the first name, or leave it to what is behind them. -/
theorem ways_anyNames_cons (single : segments.head? ≠ some anyNames) :
    ways (anyNames :: segments) (name :: names) =
      ways segments (name :: names) + ways (anyNames :: segments) names := by
  rw [ways_anyNames single, ways_anyNames single, List.tails_cons, List.map_cons, List.sum_cons]

theorem ways_anyNames_dropWhile :
    ways (anyNames :: segments) names = ways (anyNames :: segments.dropWhile (· == anyNames)) names := by
  induction segments with
  | nil => rfl
  | cons segment segments ih =>
    by_cases stars : segment = anyNames
    · rw [stars, ways_anyNames_twice, ih, List.dropWhile_cons_of_pos (by simp)]
    · rw [List.dropWhile_cons_of_neg (by simpa using stars)]

/-- Nothing takes no names at all. -/
theorem ways_nil (segments : List Text) : ways segments [] = 0 := by
  induction segments with
  | nil => rfl
  | cons segment segments ih =>
    rw [ways]
    split
    · split
      · exact ih
      · simp [ih]
    · rfl

theorem ways_cons (single : segment ≠ anyNames) :
    ways (segment :: segments) (name :: names) =
      if matchText segment name then
        if segments.isEmpty then if names.isEmpty then 1 else 0 else ways segments names
      else 0 := by
  rw [ways, if_neg single]

/-! ## Ways and fitting -/

theorem not_fits_nil : ¬Fits [] names := nofun

/-- Two stars take some names and leave the others. -/
theorem fits_anyNames : Fits (anyNames :: segments) names ↔ ∃ rest, rest <:+ names ∧ Fits segments rest := by
  constructor
  · intro fits
    induction names with
    | nil =>
      cases fits with
      | enough further => exact ⟨[], List.suffix_refl _, further⟩
    | cons name names ih =>
      cases fits with
      | last single | next single => exact absurd rfl single
      | enough further => exact ⟨_, List.suffix_refl _, further⟩
      | more further =>
        obtain ⟨rest, behind, furtherToo⟩ := ih further
        exact ⟨rest, behind.trans (List.suffix_cons name names), furtherToo⟩
  · rintro ⟨rest, ⟨taken, rfl⟩, fits⟩
    induction taken with
    | nil => exact .enough fits
    | cons name taken ih => exact .more ih

theorem fits_cons (single : segment ≠ anyNames) :
    Fits (segment :: segments) (name :: names) ↔
      matchText segment name = true ∧ (segments = [] ∧ names = [] ∨ Fits segments names) := by
  constructor
  · intro fits
    cases fits with
    | last _ matched => exact ⟨matched, .inl ⟨rfl, rfl⟩⟩
    | next _ matched further => exact ⟨matched, .inr further⟩
    | enough | more => exact absurd rfl single
  · rintro ⟨matched, ⟨rfl, rfl⟩ | further⟩
    · exact .last single matched
    · exact .next single matched further

theorem fits_iff : Fits segments names ↔ 0 < ways segments names := by
  induction segments generalizing names with
  | nil => exact iff_of_false not_fits_nil (Nat.lt_irrefl 0)
  | cons segment segments ih =>
    by_cases stars : segment = anyNames
    · subst stars
      rw [fits_anyNames]
      by_cases twice : segments.head? = some anyNames
      · obtain ⟨segments, rfl⟩ := List.head?_eq_some_iff.1 twice
        rw [ways_anyNames_twice, ← ih, fits_anyNames]
        constructor
        · rintro ⟨rest, behind, fits⟩
          obtain ⟨last, within, further⟩ := fits_anyNames.1 fits
          exact ⟨last, within.trans behind, further⟩
        · rintro ⟨rest, behind, fits⟩
          exact ⟨rest, behind, .enough fits⟩
      · rw [ways_anyNames twice, List.sum_pos_iff_exists_pos_nat]
        simp [ih]
    · cases names with
      | nil =>
        rw [ways_nil]
        refine iff_of_false (fun fits => ?_) (Nat.lt_irrefl 0)
        cases fits
        exact stars rfl
      | cons name names =>
        rw [fits_cons stars, ways_cons stars, ih]
        by_cases matched : matchText segment name = true
        · cases segments with
          | nil => cases names <;> simp [matched, ways]
          | cons => simp [matched]
        · simp [matched]

theorem not_fits_nil_right : ¬Fits segments [] := by
  rw [fits_iff, ways_nil]
  exact Nat.lt_irrefl 0

/-! ## Names as segments -/

theorem ne_anyNames_of_literal {name : Text} (literal : IsLiteral name) : name ≠ anyNames := by
  rintro rfl
  exact literal '*' (by simp [anyNames]) (by simp [wildcards])

/-- Names without wildcards take themselves, and the segments behind them take the rest. -/
theorem fits_append_literal {above : List Text} (literal : ∀ name ∈ above, IsLiteral name)
    (some : segments ≠ []) :
    Fits (above ++ segments) names ↔ ∃ rest, names = above ++ rest ∧ Fits segments rest := by
  induction above generalizing names with
  | nil => simp
  | cons first above ih =>
    obtain ⟨literalFirst, others⟩ := List.forall_mem_cons.1 literal
    have single := ne_anyNames_of_literal literalFirst
    rw [List.cons_append]
    cases names with
    | nil =>
      exact iff_of_false not_fits_nil_right (by simp)
    | cons name names =>
      rw [fits_cons single, matchText_literal literalFirst, ih others]
      simp [some, and_assoc]

theorem eq_of_fits_literal (literal : ∀ name ∈ segments, IsLiteral name) (fits : Fits segments names) :
    names = segments := by
  induction segments generalizing names with
  | nil => exact absurd fits not_fits_nil
  | cons segment segments ih =>
    obtain ⟨literalFirst, others⟩ := List.forall_mem_cons.1 literal
    have matched {name : Text} := (matchText_literal literalFirst name).1
    cases fits with
    | last _ same => rw [matched same]
    | next _ same further => rw [matched same, ih others further]
    | enough | more => exact absurd rfl (ne_anyNames_of_literal literalFirst)

/-! ## One way -/

/-- Without two stars each segment takes one name. -/
theorem length_of_ways (single : anyNames ∉ segments) (some : ways segments names ≠ 0) :
    names.length = segments.length := by
  induction segments generalizing names with
  | nil => exact absurd rfl some
  | cons segment segments ih =>
    rw [List.mem_cons, not_or] at single
    cases names with
    | nil => exact absurd (ways_nil _) some
    | cons name names =>
      rw [ways_cons (Ne.symm single.1)] at some
      cases segments with
      | nil => cases names <;> simp_all
      | cons next segments =>
        rw [List.length_cons, List.length_cons, ih single.2 fun none => some (by simp [none])]

theorem ways_le_one_of_notMem (single : anyNames ∉ segments) : ways segments names ≤ 1 := by
  induction segments generalizing names with
  | nil => exact Nat.zero_le 1
  | cons segment segments ih =>
    rw [List.mem_cons, not_or] at single
    cases names with
    | nil => exact ways_nil _ ▸ Nat.zero_le 1
    | cons name names =>
      rw [ways_cons (Ne.symm single.1)]
      have further : ways segments names ≤ 1 := ih single.2
      split
      · split
        · split <;> omega
        · exact further
      · exact Nat.zero_le 1

theorem ways_anyNames_le_one (single : anyNames ∉ segments) : ways (anyNames :: segments) names ≤ 1 := by
  have head : segments.head? ≠ some anyNames := fun first => single (List.mem_of_mem_head? first)
  induction names with
  | nil => exact ways_nil _ ▸ Nat.zero_le 1
  | cons name names ih =>
    rw [ways_anyNames_cons head]
    by_cases none : ways segments (name :: names) = 0
    · rw [none, Nat.zero_add]
      exact ih
    · -- The segments behind the stars take all the names, so they do not take fewer.
      have length := length_of_ways single none
      have later : ways (anyNames :: segments) names = 0 := by
        rw [ways_anyNames head]
        refine List.sum_eq_zero_iff_forall_eq_nat.2 fun n member => ?_
        obtain ⟨rest, behind, rfl⟩ := List.mem_map.1 member
        by_contra other
        have lengthToo := length_of_ways single other
        have shorter := ((List.mem_tails _ _).1 behind).length_le
        rw [List.length_cons] at length
        omega
      rw [later, Nat.add_zero]
      exact ways_le_one_of_notMem single

/-- Two stars stand in one place at most: what is between the segments without stars is stars only. -/
def InOnePlace (segments : List Text) : Prop :=
  ∃ front stars back, segments = front ++ stars ++ back ∧ (∀ segment ∈ stars, segment = anyNames) ∧
    anyNames ∉ front ∧ anyNames ∉ back

theorem ways_le_one (place : InOnePlace segments) : ways segments names ≤ 1 := by
  obtain ⟨front, stars, back, rfl, only, singleFront, singleBack⟩ := place
  induction front generalizing names with
  | nil =>
    rw [List.nil_append]
    induction stars with
    | nil => exact ways_le_one_of_notMem singleBack
    | cons segment stars ih =>
      obtain ⟨rfl, others⟩ := List.forall_mem_cons.1 only
      cases stars with
      | nil => exact ways_anyNames_le_one singleBack
      | cons next stars =>
        obtain ⟨rfl, -⟩ := List.forall_mem_cons.1 others
        rw [List.cons_append, List.cons_append, ways_anyNames_twice]
        exact ih others
  | cons segment front ih =>
    rw [List.mem_cons, not_or] at singleFront
    cases names with
    | nil => exact ways_nil _ ▸ Nat.zero_le 1
    | cons name names =>
      rw [List.cons_append, List.cons_append, ways_cons (Ne.symm singleFront.1)]
      have further : ways (front ++ stars ++ back) names ≤ 1 := ih singleFront.2
      split
      · split
        · split <;> omega
        · exact further
      · exact Nat.zero_le 1

end ModuleHooks.Glob
