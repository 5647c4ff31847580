import ModuleHooks.Proofs.Computation
import ModuleHooks.Tsconfig.Extended

/-!
Loading a configuration, followed from the outside. `loadWithin` has at most a given number of
configurations open at once and keeps neither a state nor a trace. Loading never has more of them open
than there are files that were not begun (`comesTo_loadBegun`), so what holds of `loadWithin`, by
induction on that number, holds of loading.
-/
namespace ModuleHooks.Tsconfig

open Hooked

/-- The names of the configurations that a configuration extends, in order. -/
def bases (c : Tsconfig) : List Text := (c.parents.map Extends.bases).getD []

/-- The configuration that the file at a path declares by itself. -/
def own (fs : FileSystem) (path : Path) : Except HookError Tsconfig :=
  match fs.readText path with
  | .error failure => .error (.unreadable path (.failed failure))
  | .ok source => parse path source

/-- What a configuration adds to those it extends: its paths are seen from its directory. -/
def addition (path : Path) (c : Tsconfig) : Tsconfig :=
  { anchorAll (LoadedTsconfig.directoryOf path) c with parents := none }

/-- A configuration on top of what came before it, if anything did. -/
def onTop (merged : Option Tsconfig) (c : Tsconfig) : Tsconfig := (merged.map (·.merge c)).getD c

variable (fs : FileSystem)

/-- What the bases of a configuration come to together, given what each of them comes to; `none` where
that is not given. -/
def joinBases (begun : List Path) (path : Path) (load : Path → Option (Except HookError Tsconfig)) :
    List Text → Option Tsconfig → Option (Except HookError (Option Tsconfig))
  | [], merged => some (.ok merged)
  | base :: bases, merged =>
    match findBase? fs path base with
    | none => some (.error (.config path (.missingBase base)))
    | some found =>
      if found.normalize ∈ begun then some (.error (.config found .cycle))
      else
        match load found with
        | some (.ok config) => joinBases begun path load bases (some (onTop merged config))
        | some (.error e) => some (.error e)
        | none => none

/-- What a configuration comes to, with at most `n` configurations open at once; `none` where more
would have to be. -/
def loadWithin : Nat → List Path → Path → Option (Except HookError Tsconfig)
  | 0, _, _ => none
  | n + 1, begun, path =>
    match own fs path with
    | .error e => some (.error e)
    | .ok config =>
      (joinBases fs begun path (fun found => loadWithin n (found.normalize :: begun) found)
        config.bases none).map fun joined => joined.map (onTop · (addition path config))

/-- From every state, of whatever kind, a computation comes to one result and leaves the state as it
is. -/
def ComesTo {α : Type} (x : (σ : Type) → Hooked σ α) (r : Except HookError α) : Prop :=
  ∃ asked, ∀ (σ : Type) (t : Traced σ), (x σ).runFrom t = (r, ⟨t.state, t.trace ++ asked⟩)

variable {fs} {begun : List Path}

theorem comesTo_pure {α : Type} (a : α) : ComesTo (fun _ => pure a) (.ok a) :=
  ⟨[], fun _ t => by simp⟩

theorem comesTo_throw {α : Type} (e : HookError) : ComesTo (fun _ => (throw e : Hooked _ α)) (.error e) :=
  ⟨[], fun _ t => by simp⟩

theorem comesTo_liftExcept {α : Type} {known r : Except HookError α} (same : known = r) :
    ComesTo (fun _ => liftExcept known) r :=
  ⟨[], fun _ t => by simp [same]⟩

theorem comesTo_readText (fs : FileSystem) (path : Path) :
    ComesTo (fun _ => readText fs path) (.ok (fs.readText path)) :=
  ⟨[.read path], fun _ _ => rfl⟩

theorem ComesTo.bind {α β : Type} {x : (σ : Type) → Hooked σ α} {f : (σ : Type) → α → Hooked σ β} {a : α}
    {r : Except HookError β} (first : ComesTo x (.ok a)) (rest : ComesTo (fun σ => f σ a) r) :
    ComesTo (fun σ => x σ >>= f σ) r := by
  obtain ⟨asked, ran⟩ := first
  obtain ⟨further, ranRest⟩ := rest
  refine ⟨asked ++ further, fun σ t => ?_⟩
  rw [runFrom_bind_ok (f σ) (ran σ t), ranRest σ, List.append_assoc]

theorem ComesTo.bind_error {α β : Type} {x : (σ : Type) → Hooked σ α} {f : (σ : Type) → α → Hooked σ β}
    {e : HookError} (first : ComesTo x (.error e)) : ComesTo (fun σ => x σ >>= f σ) (.error e) := by
  obtain ⟨asked, ran⟩ := first
  exact ⟨asked, fun σ t => runFrom_bind_error (f σ) (ran σ t)⟩

/-- A computation that comes to a result has that outcome. -/
theorem ComesTo.outcome {α : Type} {x : (σ : Type) → Hooked σ α} {r : Except HookError α}
    (comes : ComesTo x r) {σ : Type} (s : σ) :
    ((x σ).outcome s).1 = r ∧ ((x σ).outcome s).2.state = s := by
  obtain ⟨asked, ran⟩ := comes
  rw [outcome_eq_runFrom, ran σ ⟨s, []⟩]
  exact ⟨rfl, rfl⟩

/-- Bases come to what they are joined to, if each of them comes to what is given for it. -/
theorem comesTo_loadBases {load : Path → Option (Except HookError Tsconfig)}
    (each : ∀ found, fs.isFile found = true → found.normalize ∉ begun →
      ∃ r, load found = some r ∧ ComesTo (fun _ => loadBegun fs (found.normalize :: begun) found) r)
    (path : Path) (bases : List Text) (merged : Option Tsconfig) :
    ∃ r, joinBases fs begun path load bases merged = some r ∧
      ComesTo (fun _ => loadBases fs begun path bases merged) r := by
  induction bases generalizing merged with
  | nil =>
    refine ⟨.ok merged, rfl, ?_⟩
    simp only [loadBases]
    exact comesTo_pure merged
  | cons base bases ih =>
    simp only [loadBases, joinBases]
    cases looked : findBase? fs path base with
    | none => exact ⟨_, rfl, comesTo_throw _⟩
    | some found =>
      by_cases again : found.normalize ∈ begun
      · simp only [if_pos again, dif_pos again]
        exact ⟨_, rfl, comesTo_throw _⟩
      · simp only [if_neg again, dif_neg again]
        obtain ⟨r, loaded, comes⟩ := each found (List.find?_some looked) again
        rw [loaded]
        cases r with
        | error e => exact ⟨.error e, rfl, comes.bind_error⟩
        | ok config =>
          obtain ⟨r, joined, rest⟩ := ih (some (onTop merged config))
          exact ⟨r, joined, comes.bind rest⟩

/-- Loading comes to what it comes to with as many configurations open as there are files that were not
begun, and the one it is for. -/
theorem comesTo_loadBegun {n : Nat} (path : Path) (enough : remaining fs begun < n) :
    ∃ r, loadWithin fs n begun path = some r ∧ ComesTo (fun _ => loadBegun fs begun path) r := by
  induction n generalizing begun path with
  | zero => exact absurd enough (Nat.not_lt_zero _)
  | succ n ih =>
    simp only [loadBegun, loadWithin]
    cases read : fs.readText path with
    | error failure =>
      have unread : own fs path = .error (.unreadable path (.failed failure)) := by rw [own, read]
      rw [unread]
      refine ⟨_, rfl, (comesTo_readText fs path).bind ?_⟩
      rw [read]
      exact comesTo_throw _
    | ok source =>
      have owned : own fs path = parse path source := by rw [own, read]
      rw [owned]
      cases parsed : parse path source with
      | error e =>
        refine ⟨_, rfl, (comesTo_readText fs path).bind ?_⟩
        rw [read]
        exact (comesTo_liftExcept parsed).bind_error
      | ok config =>
        have fewer (found : Path) (file : fs.isFile found = true) (new : found.normalize ∉ begun) :
            remaining fs (found.normalize :: begun) < n :=
          Nat.lt_of_lt_of_le (remaining_cons_lt fs begun _ (fs.normalize_mem found file) new)
            (Nat.le_of_lt_succ enough)
        obtain ⟨r, joined, comes⟩ := comesTo_loadBases
          (fun found file new => ih found (fewer found file new)) path config.bases none
        dsimp only
        rw [joined]
        refine ⟨_, rfl, (comesTo_readText fs path).bind ?_⟩
        rw [read]
        refine (comesTo_liftExcept parsed).bind ?_
        cases r with
        | error e => exact comes.bind_error
        | ok merged =>
          refine comes.bind ?_
          cases merged <;> exact comesTo_pure _

/-- The configuration itself is open, and any others are files: loading never has more open at once. -/
theorem comesTo_load (fs : FileSystem) (path : Path) :
    ∃ r, loadWithin fs (fs.files.length + 1) [path.normalize] path = some r ∧
      ComesTo (fun _ => load fs path) (r.map (⟨path, ·⟩)) := by
  have enough : remaining fs [path.normalize] < fs.files.length + 1 :=
    Nat.lt_succ_of_le (List.length_filter_le _ _)
  obtain ⟨r, loaded, comes⟩ := comesTo_loadBegun path enough
  refine ⟨r, loaded, ?_⟩
  cases r with
  | error e => exact comes.bind_error
  | ok config => exact comes.bind (comesTo_pure _)

/-- What a configuration comes to is what is loaded for it. -/
theorem outcome_load {fs : FileSystem} {path : Path} {r : Except HookError Tsconfig}
    (within : loadWithin fs (fs.files.length + 1) [path.normalize] path = some r) {σ : Type} (s : σ) :
    ((load fs path).outcome s).1 = r.map (⟨path, ·⟩) := by
  obtain ⟨known, withinToo, comes⟩ := comesTo_load fs path
  obtain rfl := Option.some.inj (withinToo.symm.trans within)
  exact (comes.outcome s).1

/-- What is seen of a configuration that was evaluated is seen of the one that is loaded. -/
theorem exists_load (fs : FileSystem) (path : Path) {α : Type} (view : Tsconfig → α) {a : α}
    (evaluated : ((loadWithin fs (fs.files.length + 1) [path.normalize] path).bind Except.toOption).map
      view = some a) {σ : Type} (s : σ) :
    ∃ c, ((load fs path).outcome s).1 = .ok ⟨path, c⟩ ∧ view c = a := by
  obtain ⟨c, found, seen⟩ := Option.map_eq_some_iff.1 evaluated
  obtain ⟨r, within, ok⟩ := Option.bind_eq_some_iff.1 found
  refine ⟨c, ?_, seen⟩
  rw [outcome_load within, eq_ok_of_toOption ok]
  rfl

end ModuleHooks.Tsconfig
