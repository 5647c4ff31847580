import Mathlib.Data.List.Nodup
import ModuleHooks.Json.Value
import ModuleHooks.Proofs.Pieces

/-!
Members of objects. Each name is there once, however the members came about, so what is set under a name is
all that there is of it, and a name that is removed is gone.
-/
namespace ModuleHooks.Members

variable {α : Type} {name : Text} {value : α} {members : Members α}

/-- Each name is there once. -/
def IsDistinct (members : Members α) : Prop := (members.map Prod.fst).Nodup

instance (members : Members α) : Decidable (IsDistinct members) :=
  inferInstanceAs (Decidable (members.map Prod.fst).Nodup)

/-- The members of a name. -/
def named (name : Text) (members : Members α) : Members α := members.filter (·.1 = name)

theorem named_eq_nil (unknown : name ∉ members.map Prod.fst) : named name members = [] := by
  refine List.filter_eq_nil_iff.2 fun member inside same => ?_
  exact unknown (List.mem_map.2 ⟨member, inside, of_decide_eq_true same⟩)

/-- A name that is there once is found with its value, and with no other. -/
theorem get?_eq_some_iff (distinct : IsDistinct members) :
    get? name members = some value ↔ (name, value) ∈ members := by
  unfold get?
  induction members with
  | nil => simp
  | cons first rest ih =>
    obtain ⟨n, v⟩ := first
    obtain ⟨new, others⟩ := List.nodup_cons.1 distinct
    by_cases same : name = n
    · subst same
      have nowhere : (name, value) ∉ rest := fun member => new (List.mem_map.2 ⟨_, member, rfl⟩)
      simp [nowhere, eq_comm]
    · rw [List.lookup_cons, beq_eq_false_iff_ne.2 same]
      simpa [same] using ih others

theorem mem_of_get? (found : get? name members = some value) : (name, value) ∈ members := by
  obtain ⟨front, back, rfl, -⟩ := List.lookup_eq_some_iff.1 found
  exact List.mem_append_right front List.mem_cons_self

theorem IsDistinct.value_unique {other : α} (distinct : IsDistinct members) (first : (name, value) ∈ members)
    (second : (name, other) ∈ members) : value = other := by
  have found := (get?_eq_some_iff distinct).2 first
  rw [(get?_eq_some_iff distinct).2 second] at found
  exact (Option.some.inj found).symm

theorem get?_eq_none_iff : get? name members = none ↔ name ∉ members.map Prod.fst := by
  unfold get?
  rw [List.lookup_eq_none_iff, List.mem_map]
  simp only [bne_iff_ne]
  constructor
  · rintro other ⟨member, inside, same⟩
    exact other member inside same.symm
  · intro unknown member inside same
    exact unknown ⟨member, inside, same.symm⟩

/-- The order of the members does not matter to what is found. -/
theorem get?_perm {permuted : Members α} (distinct : IsDistinct members) (perm : permuted.Perm members) :
    get? name permuted = get? name members := by
  have distinctToo : IsDistinct permuted := (perm.map Prod.fst).nodup_iff.2 distinct
  refine Option.ext fun v => ?_
  rw [get?_eq_some_iff distinct, get?_eq_some_iff distinctToo, perm.mem_iff]

/-! ## Setting -/

theorem mem_names_insert {n : Text} :
    n ∈ (insert name value members).map Prod.fst ↔ n = name ∨ n ∈ members.map Prod.fst := by
  induction members with
  | nil => simp [insert]
  | cons first rest ih =>
    unfold insert
    split
    case isTrue same => simp [same]
    case isFalse => rw [List.map_cons, List.mem_cons, ih, List.map_cons, List.mem_cons, or_left_comm]

theorem IsDistinct.insert (distinct : IsDistinct members) : IsDistinct (Members.insert name value members) := by
  induction members with
  | nil => simp [Members.insert, IsDistinct]
  | cons first rest ih =>
    obtain ⟨new, others⟩ := List.nodup_cons.1 distinct
    unfold Members.insert
    split
    case isTrue same => exact List.nodup_cons.2 ⟨same ▸ new, others⟩
    case isFalse other =>
      refine List.nodup_cons.2 ⟨fun member => ?_, ih others⟩
      exact (mem_names_insert.1 member).elim other new

/-- What is set is all that there is of a name. -/
theorem named_insert (distinct : IsDistinct members) :
    named name (insert name value members) = [(name, value)] := by
  induction members with
  | nil => simp [insert, named]
  | cons first rest ih =>
    obtain ⟨new, others⟩ := List.nodup_cons.1 distinct
    unfold insert
    split
    case isTrue same =>
      have nothing : named name rest = [] := named_eq_nil (same ▸ new)
      simpa [named] using nothing
    case isFalse other => simpa [named, other] using ih others

theorem isDistinct_ofPairs (pairs : List (Text × α)) : IsDistinct (ofPairs pairs) := by
  have folds (members : Members α) (distinct : IsDistinct members) :
      IsDistinct (pairs.foldl (fun members pair => insert pair.1 pair.2 members) members) := by
    induction pairs generalizing members with
    | nil => exact distinct
    | cons pair rest ih => exact ih _ distinct.insert
  exact folds [] List.nodup_nil

theorem get?_cons (n : Text) (first : Text × α) (rest : Members α) :
    get? n (first :: rest) = if n = first.1 then some first.2 else get? n rest := by
  unfold get?
  rw [List.lookup_cons]
  split
  case h_1 same => rw [if_pos (eq_of_beq same)]
  case h_2 other => rw [if_neg (beq_eq_false_iff_ne.1 other)]

theorem get?_insert (n : Text) :
    get? n (insert name value members) = if n = name then some value else get? n members := by
  induction members with
  | nil => exact get?_cons n (name, value) []
  | cons first rest ih =>
    unfold insert
    by_cases here : first.1 = name
    · rw [if_pos here, get?_cons, get?_cons, here]
      split <;> rfl
    · rw [if_neg here, get?_cons, get?_cons, ih]
      by_cases same : n = name
      · rw [if_neg (fun equal => here (equal.symm.trans same)), if_pos same, if_pos same]
      · rw [if_neg same, if_neg same]

/-- What is set last counts. -/
theorem insert_insert (later : α) :
    insert name later (insert name value members) = insert name later members := by
  induction members with
  | nil => simp [insert]
  | cons first rest ih =>
    by_cases here : first.1 = name
    · simp [insert, here]
    · simp [insert, here, ih]

theorem mem_of_mem_insert {member : Text × α} (there : member ∈ insert name value members) :
    member = (name, value) ∨ member ∈ members := by
  induction members with
  | nil => exact .inl (List.mem_singleton.1 there)
  | cons first rest ih =>
    unfold insert at there
    split at there
    case isTrue =>
      obtain same | inside := List.mem_cons.1 there
      · exact .inl same
      · exact .inr (List.mem_cons_of_mem _ inside)
    case isFalse =>
      obtain same | inside := List.mem_cons.1 there
      · exact .inr (List.mem_cons.2 (.inl same))
      · exact (ih inside).imp_right (List.mem_cons_of_mem _)

theorem ofPairs_subset (pairs : List (Text × α)) : ofPairs pairs ⊆ pairs := by
  have folds (members : Members α) :
      pairs.foldl (fun members pair => insert pair.1 pair.2 members) members ⊆ members ++ pairs := by
    induction pairs generalizing members with
    | nil => simp
    | cons pair rest ih =>
      intro member inside
      obtain earlier | later := List.mem_append.1 (ih _ inside)
      · obtain same | old := mem_of_mem_insert earlier
        · exact List.mem_append_right _ (List.mem_cons.2 (.inl same))
        · exact List.mem_append_left _ old
      · exact List.mem_append_right _ (List.mem_cons_of_mem _ later)
  exact folds []

/-- A new name goes to the end. -/
theorem insert_of_notMem (new : name ∉ members.map Prod.fst) :
    insert name value members = members ++ [(name, value)] := by
  induction members with
  | nil => rfl
  | cons first rest ih =>
    obtain ⟨other, others⟩ := not_or.1 (mt List.mem_cons.2 new)
    unfold insert
    rw [if_neg (Ne.symm other), ih others]
    rfl

theorem foldl_insert_of_isDistinct {front rest : Members α} (distinct : IsDistinct (front ++ rest)) :
    rest.foldl (fun members pair => insert pair.1 pair.2 members) front = front ++ rest := by
  induction rest generalizing front with
  | nil => exact (List.append_nil front).symm
  | cons member rest ih =>
    have new : member.1 ∉ front.map Prod.fst := by
      unfold IsDistinct at distinct
      rw [List.map_append, List.map_cons, List.nodup_middle] at distinct
      exact fun there => (List.nodup_cons.1 distinct).1 (List.mem_append_left _ there)
    rw [List.foldl_cons, insert_of_notMem new, ih (by simpa using distinct), List.append_assoc]
    rfl

/-- Where each name is there once, nothing is merged. -/
theorem ofPairs_of_isDistinct (distinct : IsDistinct members) : ofPairs members = members :=
  @foldl_insert_of_isDistinct α [] members distinct

/-! ## Removing -/

/-- The first of a name stands between members that do not have it, and others. -/
theorem exists_of_findIdx? {i : Nat} (found : members.findIdx? (·.1 = name) = some i) :
    ∃ before own after, members = before ++ (name, own) :: after ∧ before.length = i ∧
      name ∉ before.map Prod.fst := by
  obtain ⟨inside, same, others⟩ := List.findIdx?_eq_some_iff_getElem.1 found
  refine ⟨members.take i, members[i].2, members.drop (i + 1), ?_, ?_, ?_⟩
  · have own : members[i] = (name, members[i].2) := by rw [← of_decide_eq_true same]
    rw [← own, List.getElem_cons_drop, List.take_append_drop]
  · exact List.length_take_of_le (Nat.le_of_lt inside)
  · intro member
    obtain ⟨pair, taken, named⟩ := List.mem_map.1 member
    obtain ⟨j, smaller, rfl⟩ := List.mem_iff_getElem.1 taken
    rw [List.length_take] at smaller
    have other := others j (by omega)
    rw [List.getElem_take] at named
    simp [named] at other

/-- What is left is the rest, but for the order. -/
theorem perm_remove (distinct : IsDistinct members) :
    (remove name members).Perm (members.filter (·.1 ≠ name)) := by
  unfold remove
  split
  case h_1 unknown =>
    have all : members.filter (·.1 ≠ name) = members := by
      refine List.filter_eq_self.2 fun member inside => ?_
      have other := List.findIdx?_eq_none_iff.1 unknown member inside
      simpa using other
    rw [all]
  case h_2 i found =>
    obtain ⟨before, own, after, rfl, rfl, unknown⟩ := exists_of_findIdx? found
    have unknownAfter : name ∉ after.map Prod.fst := by
      unfold IsDistinct at distinct
      rw [List.map_append, List.map_cons, List.nodup_middle] at distinct
      exact fun member => (List.nodup_cons.1 distinct).1 (List.mem_append_right _ member)
    have kept (part : Members α) (absent : name ∉ part.map Prod.fst) : part.filter (·.1 ≠ name) = part :=
      List.filter_eq_self.2 fun member inside => by
        simpa using fun same => absent (List.mem_map.2 ⟨member, inside, same⟩)
    rw [List.filter_append, List.filter_cons_of_neg (by simp), kept before unknown, kept after unknownAfter]
    obtain rfl | ⟨middle, last, rfl⟩ := after.eq_nil_or_concat
    · simp
    · -- The last member takes the free place.
      have ending : (before ++ (name, own) :: middle.concat last).getLast? = some last := by
        simp [List.getLast?_cons]
      have moved : ((before ++ (name, own) :: middle.concat last).set before.length last).dropLast =
          before ++ last :: middle := by
        simp [List.dropLast_cons_of_ne_nil]
      rw [ending]
      dsimp only
      rw [moved, List.concat_eq_append]
      exact (List.perm_append_singleton last middle).symm.append_left before

theorem IsDistinct.remove (distinct : IsDistinct members) : IsDistinct (Members.remove name members) :=
  ((perm_remove distinct).map Prod.fst).nodup_iff.2 (distinct.sublist (List.filter_sublist.map Prod.fst))

theorem notMem_names_remove (distinct : IsDistinct members) : name ∉ (remove name members).map Prod.fst := by
  intro member
  obtain ⟨pair, left, same⟩ := List.mem_map.1 (((perm_remove distinct).map Prod.fst).mem_iff.1 member)
  simpa [same] using (List.mem_filter.1 left).2

theorem get?_remove (distinct : IsDistinct members) (n : Text) :
    get? n (remove name members) = if n = name then none else get? n members := by
  split
  case isTrue same =>
    rw [same]
    exact get?_eq_none_iff.2 (notMem_names_remove distinct)
  case isFalse other =>
    have distinctToo : IsDistinct (members.filter (·.1 ≠ name)) :=
      distinct.sublist (List.filter_sublist.map Prod.fst)
    refine Option.ext fun v => ?_
    rw [get?_perm distinctToo (perm_remove distinct), get?_eq_some_iff distinctToo, get?_eq_some_iff distinct,
      List.mem_filter]
    simp [other]

theorem remove_subset (distinct : IsDistinct members) : remove name members ⊆ members := by
  intro member left
  exact List.mem_of_mem_filter ((perm_remove distinct).mem_iff.1 left)

/-- Where the name is not there, nothing is removed. -/
theorem remove_of_notMem (unknown : name ∉ members.map Prod.fst) : remove name members = members := by
  have nowhere : members.findIdx? (·.1 = name) = none := by
    refine List.findIdx?_eq_none_iff.2 fun member there => ?_
    exact decide_eq_false fun same => unknown (List.mem_map.2 ⟨member, there, same⟩)
  unfold remove
  rw [nowhere]

end ModuleHooks.Members
