import ModuleHooks.Engine.State

/-!
Laws of computations that fail, remember and leave a trace. Each way of making one has an equation
for what it comes to, so later proofs run a computation by rewriting. `Within` says that a computation
changes its state only as a relation between the states and the questions in between allows; a
relation that may be repeated holds of a whole computation once it holds of its parts. `FailsWith` says
of a computation what its failures are, again by its parts.
-/
namespace ModuleHooks.Hooked

variable {σ τ α β : Type}

/-- What a computation comes to from a state, behind the questions that were asked before it. -/
def runFrom (x : Hooked σ α) (t : Traced σ) : Except HookError α × Traced σ := x.run.run t

theorem outcome_eq_runFrom (x : Hooked σ α) (s : σ) : x.outcome s = x.runFrom ⟨s, []⟩ := rfl

/-- Computations that come to the same from everywhere are the same. -/
theorem ext {x y : Hooked σ α} (same : ∀ t, x.runFrom t = y.runFrom t) : x = y :=
  funext same

@[simp] theorem runFrom_pure (a : α) (t : Traced σ) :
    runFrom (pure a : Hooked σ α) t = (.ok a, t) := rfl

@[simp] theorem runFrom_throw (e : HookError) (t : Traced σ) :
    runFrom (throw e : Hooked σ α) t = (.error e, t) := rfl

theorem runFrom_bind (x : Hooked σ α) (f : α → Hooked σ β) (t : Traced σ) :
    runFrom (x >>= f) t =
      match runFrom x t with
      | (.ok a, u) => runFrom (f a) u
      | (.error e, u) => (.error e, u) := by
  show (ExceptT.bindCont f (x t).1) (x t).2 = _
  unfold runFrom
  rcases hx : x t with ⟨r, u⟩
  cases r <;> simp [ExceptT.run, StateT.run, hx] <;> rfl

theorem runFrom_bind_ok {x : Hooked σ α} {t u : Traced σ} {a : α} (f : α → Hooked σ β)
    (ran : runFrom x t = (.ok a, u)) : runFrom (x >>= f) t = runFrom (f a) u := by
  rw [runFrom_bind, ran]

theorem runFrom_bind_error {x : Hooked σ α} {t u : Traced σ} {e : HookError} (f : α → Hooked σ β)
    (ran : runFrom x t = (.error e, u)) : runFrom (x >>= f) t = (.error e, u) := by
  rw [runFrom_bind, ran]

theorem eq_ok_of_toOption {r : Except HookError α} {a : α} (found : r.toOption = some a) : r = .ok a := by
  cases r with
  | error e => exact nomatch found
  | ok b =>
    obtain rfl : b = a := Option.some.inj found
    rfl

/-- The failure, if there is one. -/
def failure? : Except HookError α → Option HookError
  | .ok _ => none
  | .error e => some e

theorem eq_error_of_failure? {r : Except HookError α} {e : HookError} (failed : failure? r = some e) :
    r = .error e := by
  cases r with
  | ok a => exact nomatch failed
  | error e' =>
    obtain rfl : e' = e := Option.some.inj failed
    rfl

/-- A result of one thing after another is a result of each. -/
theorem exists_of_runFrom_bind {x : Hooked σ α} {f : α → Hooked σ β} {t v : Traced σ} {b : β}
    (ran : runFrom (x >>= f) t = (.ok b, v)) :
    ∃ a u, runFrom x t = (.ok a, u) ∧ runFrom (f a) u = (.ok b, v) := by
  rw [runFrom_bind] at ran
  rcases first : runFrom x t with ⟨e | a, u⟩
  · rw [first] at ran
    exact nomatch congrArg Prod.fst ran
  · rw [first] at ran
    exact ⟨a, u, rfl, ran⟩

@[simp] theorem runFrom_liftExcept (r : Except HookError α) (t : Traced σ) :
    runFrom (liftExcept r : Hooked σ α) t = (r, t) := by
  cases r <;> rfl

@[simp] theorem runFrom_note (e : Event) (t : Traced σ) :
    runFrom (note e) t = (.ok (), { t with trace := t.trace ++ [e] }) := rfl

@[simp] theorem runFrom_state (t : Traced σ) : runFrom state t = (.ok t.state, t) := rfl

@[simp] theorem runFrom_update (f : σ → σ) (t : Traced σ) :
    runFrom (update f) t = (.ok (), { t with state := f t.state }) := rfl

@[simp] theorem runFrom_attempt (x : Hooked σ α) (t : Traced σ) :
    runFrom x.attempt t = (.ok (runFrom x t).1, (runFrom x t).2) := rfl

@[simp] theorem runFrom_zoom (part : σ → τ) (put : τ → σ → σ) (x : Hooked τ α) (t : Traced σ) :
    runFrom (zoom part put x) t =
      ((runFrom x ⟨part t.state, t.trace⟩).1,
        ⟨put (runFrom x ⟨part t.state, t.trace⟩).2.state t.state,
          (runFrom x ⟨part t.state, t.trace⟩).2.trace⟩) := rfl

@[simp] theorem runFrom_takeAnswer (answer : HostAnswer α) (t : Traced σ) :
    runFrom (takeAnswer answer) t =
      (answer.result, { t with trace := t.trace ++ answer.reads.map .hostRead }) := by
  cases answer with
  | mk reads result => cases result <;> rfl

/-! ## Properties of a whole from its parts -/

/-- A property that holds of coming to an outcome, and of one thing after another when it holds of
both. -/
structure Composes (P : ∀ α : Type, Hooked σ α → Prop) : Prop where
  ofExcept : ∀ {α : Type} (r : Except HookError α), P α (liftExcept r)
  bind : ∀ {α β : Type} {x : Hooked σ α} {f : α → Hooked σ β},
    P α x → (∀ a, P β (f a)) → P β (x >>= f)

namespace Composes

variable {P : ∀ α : Type, Hooked σ α → Prop} {α : Type}

theorem pure (composes : Composes P) (a : α) : P α (Pure.pure a) := composes.ofExcept (.ok a)

theorem throw (composes : Composes P) (e : HookError) : P α (MonadExcept.throw e) :=
  composes.ofExcept (.error e)

end Composes

/-! ## Computations that cannot fail -/

/-- The computation has a result from everywhere. -/
def Succeeds (x : Hooked σ α) : Prop := ∀ t, ∃ a u, x.runFrom t = (.ok a, u)

namespace Succeeds

theorem pure (a : α) : Succeeds (Pure.pure a : Hooked σ α) := fun t => ⟨a, t, rfl⟩

theorem bind {x : Hooked σ α} {f : α → Hooked σ β} (first : Succeeds x) (rest : ∀ a, Succeeds (f a)) :
    Succeeds (x >>= f) := by
  intro t
  obtain ⟨a, u, ran⟩ := first t
  obtain ⟨b, v, ranRest⟩ := rest a u
  exact ⟨b, v, (runFrom_bind_ok f ran).trans ranRest⟩

theorem state : Succeeds (Hooked.state : Hooked σ σ) := fun t => ⟨t.state, t, rfl⟩

theorem update (f : σ → σ) : Succeeds (Hooked.update f) := fun t => ⟨(), _, runFrom_update f t⟩

end Succeeds

/-! ## What a computation may fail with -/

/-- Every failure of the computation has a property. -/
def FailsWith (P : HookError → Prop) (x : Hooked σ α) : Prop :=
  ∀ t e, (x.runFrom t).1 = .error e → P e

namespace FailsWith

variable {P : HookError → Prop}

theorem mono {Q : HookError → Prop} {x : Hooked σ α} (fails : FailsWith P x) (weaker : ∀ e, P e → Q e) :
    FailsWith Q x :=
  fun t e failed => weaker e (fails t e failed)

theorem throw {e : HookError} (holds : P e) : FailsWith P (MonadExcept.throw e : Hooked σ α) := by
  intro t e' failed
  cases failed
  exact holds

theorem ofExcept {r : Except HookError α} (holds : ∀ e, r = .error e → P e) :
    FailsWith P (liftExcept r : Hooked σ α) := by
  intro t e failed
  rw [runFrom_liftExcept] at failed
  exact holds e failed

theorem bind {x : Hooked σ α} {f : α → Hooked σ β} (first : FailsWith P x)
    (rest : ∀ a, FailsWith P (f a)) : FailsWith P (x >>= f) := by
  intro t e failed
  rw [runFrom_bind] at failed
  rcases ran : x.runFrom t with ⟨e' | a, u⟩
  · rw [ran] at failed
    cases failed
    exact first t e (congrArg Prod.fst ran)
  · rw [ran] at failed
    exact rest a u e failed

/-- What cannot fail fails with nothing. -/
theorem of_succeeds {x : Hooked σ α} (succeeds : Succeeds x) : FailsWith P x := by
  intro t e failed
  obtain ⟨a, u, ran⟩ := succeeds t
  rw [ran] at failed
  exact nomatch failed

theorem pure (a : α) : FailsWith P (Pure.pure a : Hooked σ α) := of_succeeds (.pure a)

end FailsWith

/-! ## What a computation may give -/

/-- Every result of the computation has a property. -/
def Gives (P : α → Prop) (x : Hooked σ α) : Prop := ∀ t a u, x.runFrom t = (.ok a, u) → P a

namespace Gives

variable {P : α → Prop}

theorem pure {a : α} (holds : P a) : Gives P (Pure.pure a : Hooked σ α) := by
  intro t b u ran
  cases ran
  exact holds

theorem throw (e : HookError) : Gives P (MonadExcept.throw e : Hooked σ α) := fun _ _ _ ran => nomatch ran

theorem bind {x : Hooked σ β} {f : β → Hooked σ α} (rest : ∀ b, Gives P (f b)) : Gives P (x >>= f) := by
  intro t a v ran
  obtain ⟨b, u, -, ran⟩ := exists_of_runFrom_bind ran
  exact rest b u a v ran

end Gives

/-! ## What a computation may do to its state -/

/-- Relations between a state, the questions asked from it on, and the state behind them that hold of
doing nothing and of one thing after another. -/
structure Repeats (R : σ → List Event → σ → Prop) : Prop where
  refl : ∀ s, R s [] s
  trans : ∀ {s u v asked further}, R s asked u → R u further v → R s (asked ++ further) v

/-- From each state the computation comes to one answer, whatever was asked before; and the relation
holds of the state, of what it asks, and of the state that it leaves, however it ends. -/
def Within (R : σ → List Event → σ → Prop) (x : Hooked σ α) : Prop :=
  ∀ s, ∃ r asked u, R s asked u ∧ ∀ trace, x.runFrom ⟨s, trace⟩ = (r, ⟨u, trace ++ asked⟩)

/-- Nothing but questions of one kind is asked. -/
def Only (P : Event → Prop) (_ : σ) (asked : List Event) (_ : σ) : Prop := ∀ e ∈ asked, P e

theorem Only.repeats (P : Event → Prop) : Repeats (Only P : σ → List Event → σ → Prop) where
  refl _ := by simp [Only]
  trans first second e member := (List.mem_append.1 member).elim (first e) (second e)

namespace Within

variable {R : σ → List Event → σ → Prop} {x : Hooked σ α} {f : α → Hooked σ β}

/-- The relation holds of an outcome. -/
theorem outcome (within : Within R x) (s : σ) : R s (x.outcome s).2.trace (x.outcome s).2.state := by
  obtain ⟨r, asked, u, held, ran⟩ := within s
  rw [outcome_eq_runFrom, ran []]
  exact held

/-- Behind other questions a computation comes to its outcome and adds what the outcome asked. -/
theorem runFrom_eq (within : Within R x) (s : σ) (trace : List Event) :
    x.runFrom ⟨s, trace⟩ =
      ((x.outcome s).1, ⟨(x.outcome s).2.state, trace ++ (x.outcome s).2.trace⟩) := by
  obtain ⟨r, asked, u, -, ran⟩ := within s
  rw [outcome_eq_runFrom, ran [], ran trace]
  rfl

/-- The relation holds of the states before and behind a run. -/
theorem of_runFrom (within : Within R x) {t u : Traced σ} {r : Except HookError α}
    (ran : x.runFrom t = (r, u)) : ∃ asked, R t.state asked u.state := by
  obtain ⟨r', asked, u', held, runs⟩ := within t.state
  have same := (runs t.trace).symm.trans ran
  cases same
  exact ⟨asked, held⟩

/-- A relation that is known of every outcome. -/
theorem of_outcome {S : σ → List Event → σ → Prop} (within : Within S x)
    (held : ∀ s, R s (x.outcome s).2.trace (x.outcome s).2.state) : Within R x :=
  fun s => ⟨_, _, _, held s, within.runFrom_eq s⟩

theorem pure (repeats : Repeats R) (a : α) : Within R (Pure.pure a : Hooked σ α) :=
  fun s => ⟨.ok a, [], s, repeats.refl s, by simp⟩

theorem throw (repeats : Repeats R) (e : HookError) :
    Within R (MonadExcept.throw e : Hooked σ α) :=
  fun s => ⟨.error e, [], s, repeats.refl s, by simp⟩

theorem ofExcept (repeats : Repeats R) (r : Except HookError α) :
    Within R (liftExcept r : Hooked σ α) :=
  fun s => ⟨r, [], s, repeats.refl s, by simp⟩

theorem bind (repeats : Repeats R) (first : Within R x) (rest : ∀ a, Within R (f a)) :
    Within R (x >>= f) := by
  intro s
  obtain ⟨r, asked, u, held, ran⟩ := first s
  cases r with
  | error e => exact ⟨.error e, asked, u, held, fun trace => runFrom_bind_error f (ran trace)⟩
  | ok a =>
    obtain ⟨r, further, v, heldFurther, ranFurther⟩ := rest a u
    refine ⟨r, asked ++ further, v, repeats.trans held heldFurther, fun trace => ?_⟩
    rw [runFrom_bind_ok f (ran trace), ranFurther, List.append_assoc]

theorem attempt (within : Within R x) : Within R x.attempt := by
  intro s
  obtain ⟨r, asked, u, held, ran⟩ := within s
  exact ⟨.ok r, asked, u, held, fun trace => by rw [runFrom_attempt, ran]⟩

theorem note {e : Event} (allowed : ∀ s, R s [e] s) : Within R (Hooked.note e) :=
  fun s => ⟨.ok (), [e], s, allowed s, fun _ => rfl⟩

theorem state (repeats : Repeats R) : Within R (Hooked.state : Hooked σ σ) :=
  fun s => ⟨.ok s, [], s, repeats.refl s, by simp⟩

theorem update {g : σ → σ} (allowed : ∀ s, R s [] (g s)) : Within R (Hooked.update g) :=
  fun s => ⟨.ok (), [], g s, allowed s, by simp⟩

theorem composes (repeats : Repeats R) : Composes fun α => @Within σ α R where
  ofExcept := ofExcept repeats
  bind := bind repeats

end Within

end ModuleHooks.Hooked
