import ModuleHooks.Proofs.Path.Below

/-!
A path seen from a directory above it. What is written behind the directory has the components of the path that
are not those of the directory, so behind a dot and a slash it leads from the directory to the path
(`components_join_below?`).
-/
namespace ModuleHooks.Path

open Text

variable {base p rest : Path} {pieces : List Text}

theorem components_of_isAbsolute (absolute : p.isAbsolute = true) :
    p.components = .root :: componentsOf (splitAt '/' p.text) := by
  obtain ⟨s⟩ := p
  obtain ⟨body, rfl⟩ : ∃ body, s = '/' :: body := List.head?_eq_some_iff.1 (beq_iff_eq.1 absolute)
  rfl

/-- Each piece that means something is one component. -/
theorem componentsOf_dropNames (n : Nat) (pieces : List Text) :
    componentsOf (dropNames n pieces) = (componentsOf pieces).drop n := by
  induction pieces generalizing n with
  | nil => cases n <;> rfl
  | cons piece pieces ih =>
    cases n with
    | zero => rfl
    | succ n =>
      rw [dropNames, ih]
      cases idle : isIdle piece with
      | true => rw [componentsOf_cons_of_idle pieces idle, if_pos rfl]
      | false =>
        rw [componentsOf_cons_of_not_idle pieces idle, if_neg Bool.false_ne_true, List.drop_succ_cons]

theorem dropNames_subset (n : Nat) (pieces : List Text) : dropNames n pieces ⊆ pieces := by
  induction pieces generalizing n with
  | nil => cases n <;> exact List.Subset.refl _
  | cons piece pieces ih =>
    cases n with
    | zero => exact List.Subset.refl _
    | succ n => exact List.subset_cons_of_subset _ (ih _)

theorem componentsOf_dropWhile_isIdle (pieces : List Text) :
    componentsOf (pieces.dropWhile isIdle) = componentsOf pieces := by
  induction pieces with
  | nil => rfl
  | cons piece pieces ih =>
    cases idle : isIdle piece with
    | true => rw [List.dropWhile_cons_of_pos idle, ih, componentsOf_cons_of_idle pieces idle]
    | false => rw [List.dropWhile_cons_of_neg (by simp [idle])]

theorem componentsOf_splitAt_joinWith (unmarked : ∀ piece ∈ pieces, '/' ∉ piece) :
    componentsOf (splitAt '/' (joinWith '/' pieces)) = componentsOf pieces := by
  cases pieces with
  | nil => rfl
  | cons piece pieces => rw [splitAt_joinWith (List.cons_ne_nil piece pieces) unmarked]

/-- What is found below a directory at the top is made of pieces of the path, and has its components from there. -/
theorem below?_eq_some (absolute : base.isAbsolute = true) (found : base.below? p = some rest) :
    p.components = base.components ++ componentsOf (splitAt '/' rest.text) ∧
      ∀ c ∈ rest.text, c = '/' ∨ c ∈ p.text := by
  unfold below? at found
  split at found
  case isFalse => exact nomatch found
  case isTrue inside =>
    have front : base.components <+: p.components := List.isPrefixOf_iff_prefix.1 inside
    have rooted : p.isAbsolute = true := p.isAbsolute_iff.2 (front.subset (base.isAbsolute_iff.1 absolute))
    obtain ⟨s⟩ := p
    obtain ⟨body, rfl⟩ : ∃ body, s = '/' :: body := List.head?_eq_some_iff.1 (beq_iff_eq.1 rooted)
    have top := components_of_isAbsolute absolute
    rw [top] at front found
    obtain rfl := Option.some.inj found
    have inside : ∀ piece ∈ (dropNames (componentsOf (splitAt '/' base.text)).length
        (trimIdle (splitAt '/' body))).dropWhile isIdle, piece ∈ trimIdle (splitAt '/' body) := fun piece member =>
      dropNames_subset _ _ ((List.dropWhile_suffix _).subset member)
    refine ⟨?_, fun c member => ?_⟩
    · obtain ⟨more, whole⟩ := (List.cons_prefix_cons.1 front).2
      have behind : componentsOf (splitAt '/' (joinWith '/'
          ((dropNames (componentsOf (splitAt '/' base.text)).length
            (trimIdle (splitAt '/' body))).dropWhile isIdle))) = more := by
        rw [componentsOf_splitAt_joinWith fun piece member => notMem_of_mem_trimIdle (inside piece member),
          componentsOf_dropWhile_isIdle, componentsOf_dropNames, componentsOf_trimIdle]
        exact (congrArg (List.drop _) whole.symm).trans List.drop_left
      rw [top]
      refine Eq.trans ?_ (congrArg (_ ++ ·) behind.symm)
      exact congrArg (.root :: ·) whole.symm
    · obtain slash | ⟨piece, found, here⟩ := mem_joinWith member
      · exact .inl slash
      · obtain ⟨idle, whole, -⟩ := exists_idle (splitAt '/' body)
        have member : piece ∈ splitAt '/' body := by
          rw [whole]
          exact List.mem_append_left _ (inside piece found)
        exact .inr (List.mem_cons_of_mem _ (subset_of_mem_splitAt member here))

/-- Behind a dot and a slash it leads from the directory to the path. -/
theorem components_join_below? (absolute : base.isAbsolute = true) (found : base.below? p = some rest) :
    (base.join ⟨'.' :: '/' :: rest.text⟩).components = p.components := by
  have relative : isAbsolute ⟨'.' :: '/' :: rest.text⟩ = false := rfl
  have dotted : componentsOf (splitAt '/' ('.' :: '/' :: rest.text)) = componentsOf (splitAt '/' rest.text) := rfl
  rw [components_of_isAbsolute (isAbsolute_join _ absolute), componentsOf_join base relative, dotted,
    (below?_eq_some absolute found).1, components_of_isAbsolute absolute, List.cons_append]

end ModuleHooks.Path
