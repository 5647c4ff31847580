import ModuleHooks.Text.Basic

/-!
Cutting a text at a mark and joining the pieces again are inverse to each other: a text is its pieces
joined, and pieces without the mark are those of the text that they are joined to.
-/
namespace ModuleHooks.Text

variable {mark : Char} {s t : Text} {piece : Text} {pieces : List Text}

/-- A run ends where it cannot go on. -/
theorem span_append {p : Char → Bool} {run rest : Text} (inside : ∀ c ∈ run, p c = true)
    (other : ∀ c, rest.head? = some c → p c = false) :
    (run ++ rest).takeWhile p = run ∧ (run ++ rest).dropWhile p = rest := by
  have stops : rest.takeWhile p = [] ∧ rest.dropWhile p = rest := by
    cases rest with
    | nil => exact ⟨rfl, rfl⟩
    | cons c rest => simp [other c rfl]
  rw [List.takeWhile_append_of_pos inside, List.dropWhile_append_of_pos inside, stops.1, stops.2,
    List.append_nil]
  exact ⟨rfl, rfl⟩

theorem splitAt_ne_nil (mark : Char) (s : Text) : splitAt mark s ≠ [] := by
  cases s with
  | nil => simp [splitAt]
  | cons c r =>
    unfold splitAt
    split
    · simp
    · split <;> simp

theorem splitAt_cons_of_ne {c : Char} {r : Text} {pieces : List Text} (other : c ≠ mark)
    (cut : splitAt mark r = piece :: pieces) : splitAt mark (c :: r) = (c :: piece) :: pieces := by
  rw [splitAt, if_neg other, cut]

theorem splitAt_of_notMem (unmarked : mark ∉ s) : splitAt mark s = [s] := by
  induction s with
  | nil => rfl
  | cons c r ih =>
    rw [List.mem_cons, not_or] at unmarked
    exact splitAt_cons_of_ne (Ne.symm unmarked.1) (ih unmarked.2)

/-- The pieces of a text that goes on behind a mark. -/
theorem splitAt_append_mark (mark : Char) (s t : Text) :
    splitAt mark (s ++ mark :: t) = splitAt mark s ++ splitAt mark t := by
  induction s with
  | nil => simp [splitAt]
  | cons c r ih =>
    by_cases same : c = mark
    · simp [splitAt, same, ih]
    · obtain ⟨piece, pieces, cut⟩ := List.exists_cons_of_ne_nil (splitAt_ne_nil mark r)
      rw [List.cons_append, splitAt_cons_of_ne same cut]
      exact splitAt_cons_of_ne same (by rw [ih, cut]; rfl)

theorem notMem_of_mem_splitAt (member : piece ∈ splitAt mark s) : mark ∉ piece := by
  induction s generalizing piece with
  | nil => simp_all [splitAt]
  | cons c r ih =>
    by_cases same : c = mark
    · rw [splitAt, if_pos same] at member
      obtain rfl | member := List.mem_cons.1 member
      · simp
      · exact ih member
    · obtain ⟨first, rest, cut⟩ := List.exists_cons_of_ne_nil (splitAt_ne_nil mark r)
      rw [splitAt_cons_of_ne same cut] at member
      obtain rfl | member := List.mem_cons.1 member
      · have unmarked : mark ∉ first := ih (by simp [cut])
        simp [Ne.symm same, unmarked]
      · exact ih (by simp [cut, member])

theorem cutAt?_of_notMem (unmarked : mark ∉ s) : cutAt? mark s = none := by
  induction s with
  | nil => rfl
  | cons c r ih =>
    rw [List.mem_cons, not_or] at unmarked
    rw [cutAt?, if_neg (Ne.symm unmarked.1), ih unmarked.2, Option.map_none]

/-- A cut text is put together again, and the cut is at the first mark. -/
theorem cutAt?_eq_some {before rest : Text} (cut : cutAt? mark s = some (before, rest)) :
    s = before ++ mark :: rest ∧ mark ∉ before := by
  induction s generalizing before with
  | nil => exact nomatch cut
  | cons c r ih =>
    rw [cutAt?] at cut
    by_cases same : c = mark
    · rw [if_pos same] at cut
      cases cut
      exact ⟨by rw [same, List.nil_append], List.not_mem_nil⟩
    · rw [if_neg same] at cut
      obtain ⟨⟨more, rest'⟩, inner, whole⟩ := Option.map_eq_some_iff.1 cut
      cases whole
      obtain ⟨rfl, unmarked⟩ := ih inner
      exact ⟨rfl, by simp [Ne.symm same, unmarked]⟩

theorem notMem_of_cutAt? (uncut : cutAt? mark s = none) : mark ∉ s := by
  induction s with
  | nil => exact List.not_mem_nil
  | cons c r ih =>
    rw [cutAt?] at uncut
    by_cases same : c = mark
    · rw [if_pos same] at uncut
      exact nomatch uncut
    · rw [if_neg same] at uncut
      have unmarked := ih (Option.map_eq_none_iff.1 uncut)
      simp [Ne.symm same, unmarked]

/-- A text is cut at the mark that it goes on behind. -/
theorem cutAt?_append_mark (unmarked : mark ∉ s) (t : Text) :
    cutAt? mark (s ++ mark :: t) = some (s, t) := by
  induction s with
  | nil => exact if_pos rfl
  | cons c r ih =>
    rw [List.mem_cons, not_or] at unmarked
    rw [List.cons_append, cutAt?, if_neg (Ne.symm unmarked.1), ih unmarked.2]
    rfl

/-- What goes on without the mark is cut where it was cut before. -/
theorem cutAt?_append (unmarked : mark ∉ t) :
    cutAt? mark (s ++ t) = (cutAt? mark s).map fun (before, rest) => (before, rest ++ t) := by
  induction s with
  | nil => exact cutAt?_of_notMem unmarked
  | cons c r ih =>
    rw [List.cons_append, cutAt?, cutAt?, ih]
    by_cases same : c = mark
    · rw [if_pos same, if_pos same]
      rfl
    · rw [if_neg same, if_neg same]
      cases cutAt? mark r <;> rfl

theorem after?_append (lead rest : Text) : after? lead (lead ++ rest) = some rest := by
  induction lead with
  | nil => rfl
  | cons c lead ih => exact (if_pos (beq_self_eq_true c)).trans ih

/-- A text is what it was found to start with, and what follows that. -/
theorem append_of_after? {lead rest : Text} (after : after? lead s = some rest) : s = lead ++ rest := by
  induction lead generalizing s with
  | nil => exact Option.some.inj after
  | cons c lead ih =>
    cases s with
    | nil => exact nomatch after
    | cons d s =>
      by_cases same : c = d
      · subst same
        have further : after? lead s = some rest := by
          rw [← after]
          exact (if_pos (beq_self_eq_true c)).symm
        rw [ih further, List.cons_append]
      · have differ : after? (c :: lead) (d :: s) = none := if_neg (by simpa using same)
        exact nomatch differ.symm.trans after

theorem before?_append (s tail : Text) : before? tail (s ++ tail) = some s := by
  rw [before?, List.reverse_append, after?_append, Option.map_some, List.reverse_reverse]

/-- A text is what precedes the end that it was found to have, and that end. -/
theorem append_of_before? {tail front : Text} (before : before? tail s = some front) : s = front ++ tail := by
  obtain ⟨rest, after, rfl⟩ := Option.map_eq_some_iff.1 before
  rw [← List.reverse_reverse s, append_of_after? after, List.reverse_append, List.reverse_reverse]

/-- A text is what is left of it without the marks at its end, and those. -/
theorem exists_trimEndOf (mark : Char) (s : Text) :
    ∃ n, s = trimEndOf mark s ++ List.replicate n mark ∧ (trimEndOf mark s).getLast? ≠ some mark := by
  refine ⟨(s.reverse.takeWhile (· == mark)).length, ?_, ?_⟩
  · have marks : s.reverse.takeWhile (· == mark) =
        List.replicate (s.reverse.takeWhile (· == mark)).length mark :=
      List.eq_replicate_iff.2 ⟨rfl, fun c member =>
        beq_iff_eq.1 (List.all_eq_true.1 List.all_takeWhile c member)⟩
    rw [← List.reverse_replicate, ← marks, trimEndOf, ← List.reverse_append,
      List.takeWhile_append_dropWhile, List.reverse_reverse]
  · rw [trimEndOf, List.getLast?_reverse]
    intro marked
    have kept := List.head?_dropWhile_not (· == mark) s.reverse
    rw [marked] at kept
    simp at kept

theorem trimEndOf_append (n : Nat) (ends : s.getLast? ≠ some mark) :
    trimEndOf mark (s ++ List.replicate n mark) = s := by
  have front : ∀ c ∈ List.replicate n mark, (c == mark) = true := fun c member =>
    beq_iff_eq.2 (List.eq_of_mem_replicate member)
  have stops : s.reverse.dropWhile (· == mark) = s.reverse := by
    obtain rfl | ⟨init, last, rfl⟩ := List.eq_nil_or_concat s
    · rfl
    · have other : last ≠ mark := by simpa using ends
      simp [other]
  rw [trimEndOf, List.reverse_append, List.reverse_replicate, List.dropWhile_append_of_pos front, stops,
    List.reverse_reverse]

theorem joinWith_cons (mark : Char) (piece : Text) (some : pieces ≠ []) :
    joinWith mark (piece :: pieces) = piece ++ mark :: joinWith mark pieces := by
  cases pieces with
  | nil => exact absurd rfl some
  | cons next rest => rfl

theorem joinWith_concat (mark : Char) (piece : Text) (some : pieces ≠ []) :
    joinWith mark (pieces ++ [piece]) = joinWith mark pieces ++ mark :: piece := by
  induction pieces with
  | nil => exact absurd rfl some
  | cons first rest ih =>
    cases rest with
    | nil => rfl
    | cons next rest =>
      rw [List.cons_append, joinWith_cons mark first (by simp), joinWith_cons mark first (by simp),
        ih (by simp), List.append_assoc]
      rfl

theorem joinWith_splitAt (mark : Char) (s : Text) : joinWith mark (splitAt mark s) = s := by
  induction s with
  | nil => rfl
  | cons c r ih =>
    by_cases same : c = mark
    · rw [splitAt, if_pos same, joinWith_cons mark [] (splitAt_ne_nil mark r), ih, same]
      rfl
    · obtain ⟨piece, pieces, cut⟩ := List.exists_cons_of_ne_nil (splitAt_ne_nil mark r)
      rw [splitAt_cons_of_ne same cut]
      rw [cut] at ih
      cases pieces with
      | nil => simpa [joinWith] using ih
      | cons next rest => simpa [joinWith] using ih

theorem splitAt_joinWith (some : pieces ≠ []) (unmarked : ∀ piece ∈ pieces, mark ∉ piece) :
    splitAt mark (joinWith mark pieces) = pieces := by
  induction pieces with
  | nil => exact absurd rfl some
  | cons piece rest ih =>
    obtain ⟨first, others⟩ := List.forall_mem_cons.1 unmarked
    cases rest with
    | nil => exact splitAt_of_notMem first
    | cons next rest =>
      rw [joinWith_cons mark piece (by simp), splitAt_append_mark, splitAt_of_notMem first,
        ih (by simp) others]
      rfl

theorem subset_joinWith (member : piece ∈ pieces) : piece ⊆ joinWith mark pieces := by
  induction pieces with
  | nil => exact nomatch member
  | cons first rest ih =>
    cases rest with
    | nil => exact List.mem_singleton.1 member ▸ List.Subset.refl _
    | cons next rest =>
      rw [joinWith_cons mark first (by simp)]
      obtain rfl | member := List.mem_cons.1 member
      · exact List.subset_append_left _ _
      · exact List.subset_append_of_subset_right first (List.subset_cons_of_subset mark (ih member))

theorem subset_of_mem_splitAt (member : piece ∈ splitAt mark s) : piece ⊆ s := by
  have inside : piece ⊆ joinWith mark (splitAt mark s) := subset_joinWith member
  rwa [joinWith_splitAt] at inside

/-- A character of the joined text is the mark or is one of a piece. -/
theorem mem_joinWith {c : Char} (member : c ∈ joinWith mark pieces) : c = mark ∨ ∃ piece ∈ pieces, c ∈ piece := by
  induction pieces with
  | nil => exact nomatch member
  | cons first rest ih =>
    cases rest with
    | nil => exact .inr ⟨first, List.mem_singleton.2 rfl, member⟩
    | cons next rest =>
      rw [joinWith_cons mark first (by simp), List.mem_append, List.mem_cons] at member
      rcases member with member | rfl | member
      · exact .inr ⟨first, List.mem_cons_self, member⟩
      · exact .inl rfl
      · exact (ih member).imp_right fun ⟨piece, inside, found⟩ => ⟨piece, List.mem_cons_of_mem _ inside, found⟩

/-- Where the character does not occur nothing is replaced. -/
theorem replaceChar_of_notMem {old : Char} (new : Char) (unmarked : old ∉ s) : replaceChar old new s = s := by
  have kept : ∀ c ∈ s, (if c = old then new else c) = id c := by
    intro c member
    apply if_neg
    rintro rfl
    exact unmarked member
  exact (List.map_congr_left kept).trans (List.map_id s)

/-- One more piece makes the joined text longer by that piece at least. -/
theorem length_joinWith_append (mark : Char) (pieces : List Text) (piece : Text) :
    (joinWith mark pieces).length + piece.length ≤ (joinWith mark (pieces ++ [piece])).length := by
  induction pieces with
  | nil => simp [joinWith]
  | cons first rest ih =>
    cases rest with
    | nil =>
      simp [joinWith]
    | cons next rest =>
      rw [List.cons_append, joinWith_cons mark first (by simp), joinWith_cons mark first (by simp),
        List.length_append, List.length_append, List.length_cons, List.length_cons]
      omega

theorem length_joinWith_le (mark : Char) (pieces more : List Text) :
    (joinWith mark pieces).length ≤ (joinWith mark (pieces ++ more)).length := by
  induction more generalizing pieces with
  | nil => simp
  | cons piece rest ih =>
    have longer := length_joinWith_append mark pieces piece
    have longest := ih (pieces ++ [piece])
    rw [List.append_assoc, List.singleton_append] at longest
    omega

end ModuleHooks.Text
