import ModuleHooks.Text.Basic

/-!
The dictionary order on texts is a linear order.
-/
namespace ModuleHooks.Text

variable {s t u : Text}

theorem order_eq_iff : order s t = .eq ↔ s = t := by
  induction s generalizing t with
  | nil => cases t <;> simp [order]
  | cons a r ih =>
    cases t with
    | nil => simp [order]
    | cons b t => simp [order, Ordering.then_eq_eq, ih, Char.toNat_inj]

theorem order_swap (s t : Text) : (order s t).swap = order t s := by
  induction s generalizing t with
  | nil => cases t <;> rfl
  | cons a r ih =>
    cases t with
    | nil => rfl
    | cons b t => rw [order, order, Ordering.swap_then, ih, Nat.compare_swap]

theorem order_lt_trans (first : order s t = .lt) (second : order t u = .lt) : order s u = .lt := by
  induction s generalizing t u with
  | nil =>
    cases t with
    | nil => exact nomatch first
    | cons b t =>
      cases u with
      | nil => exact nomatch second
      | cons c u => rfl
  | cons a r ih =>
    cases t with
    | nil => exact nomatch first
    | cons b t =>
      cases u with
      | nil => exact nomatch second
      | cons c u =>
        simp only [order, Ordering.then_eq_lt, Nat.compare_eq_lt, Nat.compare_eq_eq] at first second ⊢
        rcases first with less | ⟨same, less⟩
        · rcases second with lessToo | ⟨sameToo, -⟩
          · exact .inl (Nat.lt_trans less lessToo)
          · exact .inl (sameToo ▸ less)
        · rcases second with lessToo | ⟨sameToo, lessToo⟩
          · exact .inl (same ▸ lessToo)
          · exact .inr ⟨same.trans sameToo, ih less lessToo⟩

end ModuleHooks.Text
