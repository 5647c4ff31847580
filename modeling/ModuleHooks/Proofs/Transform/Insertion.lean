import ModuleHooks.Transform.DynamicImport

/-!
Putting a text in behind several places. One pass through a source comes to the same as putting the text
in behind one place after the other, the last one first, so that the places in front stay where they are
(`insertAfter_eq`). Taking as many characters out again, the first place first, gives the source back
(`foldl_deleteBehind`).
-/
namespace ModuleHooks.DynamicImport

/-- The source with a text right behind the character at a position. -/
def insertBehind (inserted : Text) (e : Nat) (s : Text) : Text :=
  s.take (e + 1) ++ (inserted ++ s.drop (e + 1))

/-- The source without the `n` characters right behind the one at a position. -/
def deleteBehind (n : Nat) (s : Text) (e : Nat) : Text := s.take (e + 1) ++ s.drop (e + 1 + n)

variable {inserted s : Text} {e : Nat} {ends : List Nat}

theorem insertBehind_succ (inserted : Text) (e : Nat) (c : Char) (s : Text) :
    insertBehind inserted (e + 1) (c :: s) = c :: insertBehind inserted e s := rfl

theorem length_insertBehind (inserted : Text) (e : Nat) (s : Text) :
    (insertBehind inserted e s).length = s.length + inserted.length := by
  simp only [insertBehind, List.length_append, List.length_take, List.length_drop]
  omega

theorem count_insertBehind (inserted : Text) (e : Nat) (s : Text) (c : Char) :
    (insertBehind inserted e s).count c = s.count c + inserted.count c := by
  have whole : s.count c = (s.take (e + 1)).count c + (s.drop (e + 1)).count c := by
    rw [← List.count_append, List.take_append_drop]
  rw [insertBehind, List.count_append, List.count_append, whole]
  omega

/-- What was put in is what is taken out. -/
theorem deleteBehind_insertBehind (inserted : Text) (inside : e < s.length) :
    deleteBehind inserted.length (insertBehind inserted e s) e = s := by
  have front : (s.take (e + 1)).length = e + 1 := by
    rw [List.length_take]
    omega
  rw [deleteBehind, insertBehind, List.take_left' front, ← List.append_assoc,
    List.drop_left' (by rw [List.length_append, front]), List.take_append_drop]

/-! ## Several places -/

theorem length_le_foldr_insertBehind (inserted : Text) (ends : List Nat) (s : Text) :
    s.length ≤ (ends.foldr (insertBehind inserted) s).length := by
  induction ends with
  | nil => exact Nat.le_refl _
  | cons e later ih =>
    rw [List.foldr_cons, length_insertBehind]
    omega

theorem foldl_deleteBehind (inserted : Text) (inside : ∀ e ∈ ends, e < s.length) :
    ends.foldl (deleteBehind inserted.length) (ends.foldr (insertBehind inserted) s) = s := by
  induction ends with
  | nil => rfl
  | cons e later ih =>
    obtain ⟨here, rest⟩ := List.forall_mem_cons.1 inside
    have present := Nat.lt_of_lt_of_le here (length_le_foldr_insertBehind inserted later s)
    rw [List.foldr_cons, List.foldl_cons, deleteBehind_insertBehind inserted present, ih rest]

theorem count_foldr_insertBehind {c : Char} (absent : c ∉ inserted) (ends : List Nat) (s : Text) :
    (ends.foldr (insertBehind inserted) s).count c = s.count c := by
  induction ends with
  | nil => rfl
  | cons e later ih =>
    rw [List.foldr_cons, count_insertBehind, ih, List.count_eq_zero_of_not_mem absent, Nat.add_zero]

/-- Behind places that are all beyond it, the first character stays. -/
theorem foldr_insertBehind_cons {pos : Nat} (c : Char) (beyond : ∀ e ∈ ends, pos < e) :
    ends.foldr (fun e => insertBehind inserted (e - pos)) (c :: s) =
      c :: ends.foldr (fun e => insertBehind inserted (e - (pos + 1))) s := by
  induction ends with
  | nil => rfl
  | cons e later ih =>
    obtain ⟨here, rest⟩ := List.forall_mem_cons.1 beyond
    obtain ⟨k, rfl⟩ : ∃ k, e = pos + 1 + k := ⟨e - (pos + 1), by omega⟩
    have shift : pos + 1 + k - pos = k + 1 := by omega
    have same : pos + 1 + k - (pos + 1) = k := by omega
    rw [List.foldr_cons, List.foldr_cons, ih rest, shift, same, insertBehind_succ]

theorem insertAfter_cons (inserted : Text) (pos e : Nat) (later : List Nat) (c : Char) (rest : Text) :
    insertAfter inserted pos (e :: later) (c :: rest) =
      if e = pos then c :: (inserted ++ insertAfter inserted (pos + 1) later rest)
      else c :: insertAfter inserted (pos + 1) (e :: later) rest := rfl

/-- One pass puts the text in behind each place, if the places are in order and in the source. -/
theorem insertAfter_from {pos : Nat} (sorted : ends.Pairwise (· < ·))
    (inside : ∀ e ∈ ends, pos ≤ e ∧ e < pos + s.length) :
    insertAfter inserted pos ends s = ends.foldr (fun e => insertBehind inserted (e - pos)) s := by
  induction s generalizing pos ends with
  | nil =>
    cases ends with
    | nil => rfl
    | cons e later =>
      have bounds := inside e List.mem_cons_self
      simp only [List.length_nil] at bounds
      omega
  | cons c rest ih =>
    cases ends with
    | nil => rfl
    | cons e later =>
      obtain ⟨behind, sortedLater⟩ := List.pairwise_cons.1 sorted
      have first := (inside e List.mem_cons_self).1
      have step {ends : List Nat} (sorted : ends.Pairwise (· < ·)) (member : ends ⊆ e :: later)
          (beyond : ∀ e ∈ ends, pos < e) : insertAfter inserted (pos + 1) ends rest =
            ends.foldr (fun e => insertBehind inserted (e - (pos + 1))) rest := by
        refine ih sorted fun e' isEnd => ⟨beyond e' isEnd, ?_⟩
        have bound := (inside e' (member isEnd)).2
        rw [List.length_cons] at bound
        omega
      rw [insertAfter_cons]
      by_cases here : e = pos
      · subst here
        rw [if_pos rfl, step sortedLater (List.subset_cons_self e later) behind, List.foldr_cons,
          foldr_insertBehind_cons c behind, Nat.sub_self]
        rfl
      · have beyond : ∀ e' ∈ e :: later, pos < e' := List.forall_mem_cons.2
          ⟨by omega, fun e' isEnd => Nat.lt_of_le_of_lt first (behind e' isEnd)⟩
        rw [if_neg here, step sorted (List.Subset.refl _) beyond, foldr_insertBehind_cons c beyond]

/-- One pass through a source comes to putting the text in behind one place after the other, the last one
first. -/
theorem insertAfter_eq (inserted : Text) {ends : List Nat} {s : Text} (sorted : ends.Pairwise (· < ·))
    (inside : ∀ e ∈ ends, e < s.length) :
    insertAfter inserted 0 ends s = ends.foldr (insertBehind inserted) s :=
  insertAfter_from sorted fun e isEnd => ⟨Nat.zero_le e, by rw [Nat.zero_add]; exact inside e isEnd⟩

end ModuleHooks.DynamicImport
