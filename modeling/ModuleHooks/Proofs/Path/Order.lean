import ModuleHooks.Path.Basic
import ModuleHooks.Proofs.Text.Order

/-!
The order of paths. Paths are compared component by component, so the order is transitive and total
(`le_trans`, `le_total`), and a listing is sorted into it (`pairwise_mergeSort`).
-/
namespace ModuleHooks

namespace Component

variable {a b c : Component}

theorem order_eq_iff : order a b = .eq ↔ a = b := by
  cases a <;> cases b <;> simp [order, rank, Text.order_eq_iff]

theorem order_swap (a b : Component) : (order a b).swap = order b a := by
  cases a <;> cases b <;> first | rfl | exact Text.order_swap _ _

/-- A component comes before another by its kind, or as a name before a name. -/
theorem order_lt_iff :
    order a b = .lt ↔ a.rank < b.rank ∨ ∃ x y, a = .name x ∧ b = .name y ∧ Text.order x y = .lt := by
  cases a <;> cases b <;> simp [order, rank, Nat.compare_eq_lt]

theorem order_lt_trans (first : order a b = .lt) (second : order b c = .lt) : order a c = .lt := by
  rw [order_lt_iff] at first second ⊢
  rcases first with less | ⟨x, y, rfl, rfl, less⟩
  · rcases second with lessToo | ⟨y, z, rfl, rfl, -⟩
    · exact .inl (Nat.lt_trans less lessToo)
    · exact .inl less
  · rcases second with lessToo | ⟨y, z, same, rfl, lessToo⟩
    · exact .inl lessToo
    · obtain rfl := name.inj same
      exact .inr ⟨x, z, rfl, rfl, Text.order_lt_trans less lessToo⟩

end Component

namespace Path

variable {l m n : List Component}

theorem orderComponents_eq_iff : orderComponents l m = .eq ↔ l = m := by
  induction l generalizing m with
  | nil => cases m <;> simp [orderComponents]
  | cons a l ih =>
    cases m with
    | nil => simp [orderComponents]
    | cons b m => simp [orderComponents, Ordering.then_eq_eq, Component.order_eq_iff, ih]

theorem orderComponents_swap (l m : List Component) :
    (orderComponents l m).swap = orderComponents m l := by
  induction l generalizing m with
  | nil => cases m <;> rfl
  | cons a l ih =>
    cases m with
    | nil => rfl
    | cons b m => rw [orderComponents, orderComponents, Ordering.swap_then, ih, Component.order_swap]

theorem orderComponents_lt_trans (first : orderComponents l m = .lt) (second : orderComponents m n = .lt) :
    orderComponents l n = .lt := by
  induction l generalizing m n with
  | nil =>
    cases m with
    | nil => exact nomatch first
    | cons b m =>
      cases n with
      | nil => exact nomatch second
      | cons c n => rfl
  | cons a l ih =>
    cases m with
    | nil => exact nomatch first
    | cons b m =>
      cases n with
      | nil => exact nomatch second
      | cons c n =>
        simp only [orderComponents, Ordering.then_eq_lt, Component.order_eq_iff] at first second ⊢
        rcases first with less | ⟨rfl, less⟩
        · rcases second with lessToo | ⟨rfl, -⟩
          · exact .inl (Component.order_lt_trans less lessToo)
          · exact .inl less
        · rcases second with lessToo | ⟨rfl, lessToo⟩
          · exact .inl lessToo
          · exact .inr ⟨rfl, ih less lessToo⟩

variable {p q r : Path}

theorem le_iff :
    p.le q = true ↔ orderComponents p.components q.components = .lt ∨ p.components = q.components := by
  rw [← orderComponents_eq_iff, le]
  cases orderComponents p.components q.components <;> simp

theorem le_trans (first : p.le q = true) (second : q.le r = true) : p.le r = true := by
  rw [le_iff] at first second ⊢
  rcases first with less | same
  · rcases second with lessToo | sameToo
    · exact .inl (orderComponents_lt_trans less lessToo)
    · exact .inl (sameToo ▸ less)
  · rwa [same]

theorem le_total (p q : Path) : (p.le q || q.le p) = true := by
  have swap := orderComponents_swap p.components q.components
  unfold le
  rw [← swap]
  cases orderComponents p.components q.components <;> rfl

/-- Sorting puts paths into this order. -/
theorem pairwise_mergeSort (paths : List Path) : (paths.mergeSort le).Pairwise (le · ·) := by
  have trans (p q r : Path) (first : p.le q = true) (second : q.le r = true) : p.le r = true :=
    le_trans first second
  exact List.pairwise_mergeSort trans le_total paths

end Path
end ModuleHooks
