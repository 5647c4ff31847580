import ModuleHooks.Path.Memo

/-!
What is remembered under paths. Every spelling of a path finds the same, and remembering a value under
a path that has one changes nothing, so a memo that is only added to keeps all that it holds.
-/
namespace ModuleHooks.PathMemo

variable {α : Type} {p q : Path} {memo more most : PathMemo α} {v w : α}

theorem get?_congr (memo : PathMemo α) (same : p.components = q.components) :
    memo.get? p = memo.get? q := by
  rw [get?, same, get?]

theorem lookup_cons_eq_ite (sought key : List Component) (v : α) (memo : PathMemo α) :
    List.lookup sought ((key, v) :: memo) = if sought = key then some v else List.lookup sought memo := by
  rw [List.lookup_cons]
  by_cases same : sought = key
  · simp [same]
  · rw [beq_eq_false_iff_ne.2 same, if_neg same]

/-- What is found once a value was remembered in the place of any other. -/
theorem get?_insert (memo : PathMemo α) (p q : Path) (v : α) :
    (memo.insert p v).get? q = if q.components = p.components then some v else memo.get? q := by
  unfold insert get?
  induction memo with
  | nil => exact lookup_cons_eq_ite _ _ v []
  | cons entry rest ih =>
    obtain ⟨key, w⟩ := entry
    unfold insertAt
    split
    case isTrue same =>
      subst same
      rw [lookup_cons_eq_ite, lookup_cons_eq_ite]
      split <;> rfl
    case isFalse other =>
      rw [lookup_cons_eq_ite, lookup_cons_eq_ite, ih]
      split
      case isTrue same => rw [if_neg (same ▸ other)]
      case isFalse => rfl

/-- What is found once a value was remembered that may have been there. -/
theorem get?_insertNew (memo : PathMemo α) (p q : Path) (v : α) :
    (memo.insertNew p v).get? q =
      (memo.get? q).or (if q.components = p.components then some v else none) := by
  unfold insertNew
  by_cases same : q.components = p.components
  · rw [if_pos same, get?_congr memo same, get?_congr _ same]
    cases known : memo.get? p with
    | some w => simpa using known
    | none =>
      have unknown : List.lookup p.components memo = none := known
      simp [get?, List.lookup_append, unknown]
  · rw [if_neg same, Option.or_none]
    split
    · rfl
    · have other : (q.components == p.components) = false := beq_eq_false_iff_ne.2 same
      simp [get?, List.lookup_append, List.lookup_cons, other]

theorem get?_insertNew_self (v : α) (unknown : memo.get? p = none) : (memo.insertNew p v).get? p = some v := by
  rw [get?_insertNew, unknown, if_pos rfl, Option.none_or]

theorem get?_insertNew_some (found : (memo.insertNew p v).get? q = some w) :
    memo.get? q = some w ∨ q.components = p.components ∧ w = v := by
  rw [get?_insertNew, Option.or_eq_some_iff] at found
  obtain known | ⟨-, new⟩ := found
  · exact .inl known
  · obtain ⟨same, value⟩ := Option.ite_none_right_eq_some.1 new
    exact .inr ⟨same, (Option.some.inj value).symm⟩

/-- What is found once a value was remembered under several paths comes from before, or it is that
value and the path is one of them. -/
theorem get?_foldl_insertNew (paths : List Path)
    (found : (paths.foldl (fun memo p => memo.insertNew p v) memo).get? q = some w) :
    memo.get? q = some w ∨ w = v ∧ ∃ p ∈ paths, q.components = p.components := by
  induction paths generalizing memo with
  | nil => exact .inl found
  | cons p rest ih =>
    obtain before | ⟨new, path, member, same⟩ := ih found
    · obtain known | ⟨same, new⟩ := get?_insertNew_some before
      · exact .inl known
      · exact .inr ⟨new, p, List.mem_cons_self, same⟩
    · exact .inr ⟨new, path, List.mem_cons_of_mem p member, same⟩

/-! ## Only adding -/

/-- All that one memo holds is held by another. -/
def Le (memo more : PathMemo α) : Prop := ∀ p v, memo.get? p = some v → more.get? p = some v

theorem Le.refl (memo : PathMemo α) : memo.Le memo := fun _ _ known => known

theorem Le.trans (first : memo.Le more) (second : more.Le most) : memo.Le most :=
  fun p v known => second p v (first p v known)

theorem le_insertNew (memo : PathMemo α) (p : Path) (v : α) : memo.Le (memo.insertNew p v) := by
  intro q w known
  rw [get?_insertNew, known, Option.some_or]

/-- Nothing new is remembered where more is known already. -/
theorem insertNew_le (le : memo.Le more) (known : more.get? p = some v) : (memo.insertNew p v).Le more := by
  intro q w found
  obtain before | ⟨same, rfl⟩ := get?_insertNew_some found
  · exact le q w before
  · rw [get?_congr more same, known]

theorem le_foldl_insertNew (paths : List Path) (memo : PathMemo α) (v : α) :
    memo.Le (paths.foldl (fun memo p => memo.insertNew p v) memo) := by
  induction paths generalizing memo with
  | nil => exact Le.refl memo
  | cons p rest ih => exact (le_insertNew memo p v).trans (ih _)

end ModuleHooks.PathMemo
