import Mathlib.Data.Set.Finite.Lattice
import ModuleHooks.FileSystem.Tree
import ModuleHooks.Proofs.Resolution.Turns

/-!
How deep steps nest. Each turn lowers a bound that the visit sets on what can still follow, so steps nest
in a finite tree whose depth does not depend on the files, the mapping or the host. What makes it so is
that a URL or an alias stands for an absolute path, that such a path leads only to more of its kind, that
a mapping is not consulted behind an alias, and that a probe has no fallbacks of its own.
-/
namespace ModuleHooks

open Specifier

/-- An alias or a URL is left behind for the path that it stands for. -/
def Turn.isAlias : Turn → Bool
  | converted | expanded => true
  | mapped | probed => false

/-! ## What aliases and URLs stand for -/

/-- A file URL names an absolute path. -/
theorem FileUrl.head?_of_path? {url : Text} {path : Path} (named : FileUrl.path? url = some path) :
    path.text.head? = some '/' := by
  obtain ⟨bytes, spelled, rfl⟩ := Option.map_eq_some_iff.1 named
  obtain ⟨walk, -, rfl⟩ := Option.map_eq_some_iff.1 spelled
  have opened : ∃ rest, walk.names.flatMap (fun s => 47 :: percentDecode s) = 47 :: rest := by
    unfold Walk.names
    split
    case h_1 => exact ⟨_, rfl⟩
    case h_2 some =>
      obtain ⟨name, names, whole⟩ := List.exists_cons_of_ne_nil some
      exact ⟨_, by rw [whole]; rfl⟩
  have closed (rest : List UInt8) : ∃ more, closeDrive (47 :: rest) = 47 :: more := by
    unfold closeDrive
    split
    · dsimp only
      split
      · exact ⟨_, rfl⟩
      · exact ⟨_, rfl⟩
    · exact ⟨_, rfl⟩
  obtain ⟨rest, opened⟩ := opened
  obtain ⟨more, closed⟩ := closed rest
  rw [opened, closed, Utf8.decodeLossy, Utf8.characters]
  rfl

theorem Text.trimEndOf_prefix (mark : Char) (s : Text) : Text.trimEndOf mark s <+: s := by
  have suffix := List.dropWhile_suffix (l := s.reverse) (· == mark)
  simpa [Text.trimEndOf] using List.reverse_prefix.2 suffix

namespace Engine

/-- An alias stands for an absolute path, or for nothing where the root is all there is. -/
theorem head?_of_expandTilde {root : Path} {specifier expanded : Text}
    (rooted : root.isAbsolute = true) (stands : expandTilde root specifier = .ok expanded) :
    expanded = [] ∨ expanded.head? = some '/' := by
  obtain ⟨r, whole⟩ := List.head?_eq_some_iff.1 (eq_of_beq rooted)
  have start : Text.trimEndOf '/' root.toSlash = [] ∨
      (Text.trimEndOf '/' root.toSlash).head? = some '/' := by
    obtain ⟨rest, front⟩ := Text.trimEndOf_prefix '/' root.toSlash
    cases trimmed : Text.trimEndOf '/' root.toSlash with
    | nil => exact .inl rfl
    | cons c kept =>
      rw [trimmed, Path.toSlash, whole] at front
      exact .inr (congrArg some (List.cons.inj front).1)
  unfold expandTilde at stands
  split at stands
  case h_1 =>
    cases stands
    exact start
  case h_2 rest =>
    cases stands
    obtain nothing | some := start
    · rw [nothing]
      exact .inr rfl
    · obtain ⟨kept, opened⟩ := List.head?_eq_some_iff.1 some
      rw [opened]
      exact .inr rfl
  case h_3 => exact nomatch stands

/-! ## Descents -/

/-- A chain of nested steps, one turn after another. -/
inductive Descent (engine : Engine) : Visit → List (Turn × Visit) → Prop
  | stay (v : Visit) : Descent engine v []
  | turn {v next : Visit} {turn : Turn} {path : List (Turn × Visit)}
      (turns : (turn, next) ∈ engine.turns v) (further : Descent engine next path) :
      Descent engine v ((turn, next) :: path)

/-- The mapping is no longer consulted: it was an alias that led here, or a path is resolved. -/
def IsShut (v : Visit) : Prop := v.ctx.aliasHops ≠ 0 ∨ v.specifier.head? = some '/'

instance (v : Visit) : Decidable (IsShut v) := inferInstanceAs (Decidable (_ ∨ _))

/-- How many probes can follow one another: a fallback and its typed file, where there are fallbacks. -/
def probeDepth (v : Visit) : Nat :=
  if v.specifier.endsWith ['/'] || !v.ctx.isProbe then 2
  else if typedSpecifiers v.specifier v.ctx = [] then 0
  else 1

section

variable {engine : Engine} {v next : Visit} {turn : Turn}

theorem probeDepth_le (v : Visit) : probeDepth v ≤ 2 := by
  unfold probeDepth
  split
  · exact Nat.le_refl 2
  · split <;> decide

/-- A probe leaves fewer probes. -/
theorem probeDepth_lt {probe : Text} (member : probe ∈ probedSpecifiers v.specifier v.ctx) :
    probeDepth ⟨probe, v.ctx.probe⟩ < probeDepth v := by
  have file := endsWith_of_mem_probedSpecifiers member
  have next : probeDepth ⟨probe, v.ctx.probe⟩ = if typedSpecifiers probe v.ctx.probe = [] then 0 else 1 := by
    rw [probeDepth, file]
    rfl
  rw [next, probeDepth]
  cases fallbacks : v.specifier.endsWith ['/'] || !v.ctx.isProbe with
  | true =>
    rw [if_pos rfl]
    split <;> decide
  | false =>
    -- Among the probes of a probe are only typed files, and these have no probes.
    obtain ⟨ends, probes⟩ : v.specifier.endsWith ['/'] = false ∧ v.ctx.isProbe = true := by
      simpa using fallbacks
    simp only [probedSpecifiers, ends, probes, Bool.false_eq_true, if_false, if_true,
      List.append_nil] at member
    have some : typedSpecifiers v.specifier v.ctx ≠ [] := List.ne_nil_of_mem member
    rw [typedSpecifiers_typed member, if_pos rfl, if_neg Bool.false_ne_true, if_neg some]
    exact Nat.one_pos

theorem isPlain_of_head? {s : Text} (start : s = [] ∨ s.head? = some '/') : isPlain s = true := by
  obtain rfl | rooted := start
  · rfl
  · obtain ⟨r, rfl⟩ := List.head?_eq_some_iff.1 rooted
    exact (Anchored.of_slash r).isPlain

/-- The mapping is consulted only for what is neither a URL nor an alias, and not shut. -/
theorem not_isShut_of_consults (consulted : engine.consults v = true) :
    isPlain v.specifier = true ∧ ¬ IsShut v := by
  obtain ⟨bare, -, unaliased, -⟩ := bare_of_consults consulted
  refine ⟨isPlain_of_classify (by rw [bare]; simp) (by rw [bare]; simp), ?_⟩
  rintro (aliased | rooted)
  · exact aliased unaliased
  · obtain ⟨r, whole⟩ := List.head?_eq_some_iff.1 rooted
    have start : Anchored v.specifier := by
      rw [whole]
      exact .of_slash r
    exact start.classify_ne_bare _ bare

/-- What a turn does: an alias gives way to a path, a candidate of the mapping stands behind it, and a
probe leaves fewer probes and opens nothing. -/
inductive Effect (v : Visit) : Turn → Visit → Prop
  | replaced {turn : Turn} {next : Visit} (which : turn.isAlias = true)
      (before : isPlain v.specifier = false) (plain : isPlain next.specifier = true)
      (shut : IsShut next) : Effect v turn next
  | mapped {next : Visit} (before : isPlain v.specifier = true) (opened : ¬ IsShut v)
      (shut : IsShut next) : Effect v .mapped next
  | probed {next : Visit} (before : isPlain v.specifier = true) (plain : isPlain next.specifier = true)
      (shut : IsShut v → IsShut next) (fewer : probeDepth next < probeDepth v) :
      Effect v .probed next

theorem effect_of_mem_turns (rooted : engine.config.root.isAbsolute = true)
    (member : (turn, next) ∈ engine.turns v) : Effect v turn next := by
  cases turnsTo_of_mem_turns member with
  | converted address named =>
    have path := FileUrl.head?_of_path? named
    exact .replaced rfl (by simp [isPlain, address]) (isPlain_of_head? (.inr path)) (.inr path)
  | expanded tilde stands =>
    have plain := isPlain_of_head? (head?_of_expandTilde rooted stands)
    exact .replaced rfl (by simp [isPlain, tilde]) plain (.inl (Nat.succ_ne_zero _))
  | mapped consulted candidate =>
    obtain ⟨plain, opened⟩ := not_isShut_of_consults consulted
    exact .mapped plain opened (.inl (Nat.succ_ne_zero _))
  | probed plain probe =>
    have varies := varies_of_mem_probedSpecifiers probe
    exact .probed plain (varies.isPlain plain) (.imp_right varies.head?_slash) (probeDepth_lt probe)

end

/-! ## Bounds that every turn lowers -/

/-- How many turns can follow. -/
def depthBound (v : Visit) : Nat :=
  if isPlain v.specifier then if IsShut v then probeDepth v else 4 + probeDepth v else 3

/-- How many aliases can still be left behind. -/
def aliasBound (v : Visit) : Nat := if isPlain v.specifier = true ∧ IsShut v then 0 else 1

/-- How many candidates of the mapping can still be tried. -/
def mappingBound (v : Visit) : Nat := if IsShut v then 0 else 1

/-- How many times the mapping can be consulted. -/
def consultationBound (v : Visit) : Nat := if IsShut v then 0 else 1 + probeDepth v

theorem toNat_consults_le (engine : Engine) (v : Visit) :
    (engine.consults v).toNat ≤ if IsShut v then 0 else 1 := by
  cases consulted : engine.consults v with
  | false => exact Nat.zero_le _
  | true =>
    rw [if_neg (not_isShut_of_consults consulted).2]
    exact Nat.le_refl 1

theorem depthBound_le (v : Visit) : depthBound v ≤ 6 := by
  have probes := probeDepth_le v
  unfold depthBound
  split
  · split <;> omega
  · decide

theorem consultationBound_le (v : Visit) : consultationBound v ≤ 3 := by
  have probes := probeDepth_le v
  unfold consultationBound
  split <;> omega

namespace Effect

variable {v next : Visit} {turn : Turn}

/-- What is shut stays shut, and only a probe leaves open what was. -/
theorem isShut (effect : Effect v turn next) (shut : IsShut v ∨ turn ≠ .probed) : IsShut next := by
  cases effect with
  | replaced which before plain closed => exact closed
  | mapped before opened closed => exact closed
  | probed before plain closed fewer =>
    obtain still | other := shut
    · exact closed still
    · exact absurd rfl other

theorem depthBound_lt (effect : Effect v turn next) : depthBound next < depthBound v := by
  have probes := probeDepth_le next
  unfold depthBound
  cases effect with
  | replaced which before plain shut =>
    simp only [before, plain, shut, if_true, Bool.false_eq_true, if_false]
    omega
  | mapped before opened shut =>
    simp only [before, opened, shut, if_true, if_false]
    split <;> omega
  | probed before plain shut fewer =>
    simp only [before, plain, if_true]
    by_cases still : IsShut v
    · simpa only [still, shut still, if_true] using fewer
    · simp only [still, if_false]
      split <;> omega

theorem aliasBound_le (effect : Effect v turn next) :
    aliasBound next + turn.isAlias.toNat ≤ aliasBound v := by
  unfold aliasBound
  cases effect with
  | replaced which before plain shut => simp [which, before, plain, shut]
  | mapped before opened shut =>
    simp only [opened, and_false, if_false]
    split <;> decide
  | probed before plain shut fewer =>
    by_cases still : IsShut v
    · simp [before, plain, still, shut still, Turn.isAlias]
    · simp only [still, and_false, if_false]
      split <;> decide

theorem mappingBound_le (effect : Effect v turn next) :
    mappingBound next + (turn == .mapped).toNat ≤ mappingBound v := by
  unfold mappingBound
  cases effect with
  | replaced which before plain shut =>
    have other : (turn == .mapped) = false := by
      cases turn <;> first | rfl | exact nomatch which
    simp [shut, other]
  | mapped before opened shut => simp [opened, shut]
  | probed before plain shut fewer =>
    by_cases still : IsShut v
    · simp [still, shut still]
    · simp only [still, if_false]
      split <;> decide

/-- A visit that consults the mapping uses up one consultation. -/
theorem consultationBound_le (effect : Effect v turn next) (engine : Engine) :
    consultationBound next + (engine.consults v).toNat ≤ consultationBound v := by
  have least := toNat_consults_le engine v
  unfold consultationBound
  cases effect with
  | replaced which before plain shut =>
    by_cases still : IsShut v
    · simpa only [shut, still, if_true, Nat.zero_add] using least
    · simp only [shut, still, if_true, if_false] at least ⊢
      omega
  | mapped before opened shut =>
    simp only [opened, shut, if_true, if_false] at least ⊢
    omega
  | probed before plain shut fewer =>
    by_cases still : IsShut v
    · simpa only [still, shut still, if_true, Nat.zero_add] using least
    · simp only [still, if_false] at least ⊢
      split <;> omega

end Effect

/-! ## What a descent comes to -/

namespace Descent

variable {engine : Engine} {v : Visit} {path : List (Turn × Visit)}

/-- The turns of a kind are no more than a bound that each of them lowers and no other raises. -/
theorem countP_le {bound : Visit → Nat} (kind : Turn → Bool)
    (lowers : ∀ v turn next, (turn, next) ∈ engine.turns v →
      bound next + (kind turn).toNat ≤ bound v)
    (descent : engine.Descent v path) : path.countP (kind ·.1) ≤ bound v := by
  induction descent with
  | stay v => exact Nat.zero_le _
  | @turn v next turn path turns further ih =>
    have step := lowers v turn next turns
    rw [List.countP_cons]
    cases which : kind turn with
    | false =>
      simp only [which, Bool.toNat_false, Bool.false_eq_true, if_false] at step ⊢
      omega
    | true =>
      simp only [which, Bool.toNat_true, if_true] at step ⊢
      omega

variable (rooted : engine.config.root.isAbsolute = true)
include rooted

theorem length_le (descent : engine.Descent v path) : path.length ≤ depthBound v := by
  have lowers (v : Visit) (turn : Turn) (next : Visit) (member : (turn, next) ∈ engine.turns v) :
      depthBound next + true.toNat ≤ depthBound v := (effect_of_mem_turns rooted member).depthBound_lt
  simpa using descent.countP_le (fun _ => true) lowers

theorem aliases_le (descent : engine.Descent v path) : path.countP (·.1.isAlias) ≤ 1 := by
  have most : aliasBound v ≤ 1 := by
    unfold aliasBound
    split <;> decide
  exact (descent.countP_le Turn.isAlias fun _ _ _ member =>
    (effect_of_mem_turns rooted member).aliasBound_le).trans most

theorem mappings_le (descent : engine.Descent v path) : path.countP (·.1 == .mapped) ≤ 1 := by
  have most : mappingBound v ≤ 1 := by
    unfold mappingBound
    split <;> decide
  exact (descent.countP_le (· == .mapped) fun _ _ _ member =>
    (effect_of_mem_turns rooted member).mappingBound_le).trans most

theorem consultations_le (descent : engine.Descent v path) :
    (v :: path.map Prod.snd).countP engine.consults ≤ consultationBound v := by
  have counted (rest : List Visit) (v : Visit) :
      (v :: rest).countP engine.consults = rest.countP engine.consults + (engine.consults v).toNat := by
    rw [List.countP_cons]
    cases engine.consults v <;> rfl
  induction descent with
  | stay v =>
    have most : (if IsShut v then 0 else 1) ≤ consultationBound v := by
      unfold consultationBound
      split <;> omega
    rw [counted, List.map_nil, List.countP_nil, Nat.zero_add]
    exact (toNat_consults_le engine v).trans most
  | @turn v next turn path turns further ih =>
    have step := (effect_of_mem_turns rooted turns).consultationBound_le engine
    rw [counted, List.map_cons]
    exact (Nat.add_le_add_right ih _).trans step

/-- Nothing consults the mapping behind a visit that is shut. -/
theorem unconsulted (descent : engine.Descent v path) (shut : IsShut v) :
    ∀ w ∈ v :: path.map Prod.snd, engine.consults w = false := by
  have unconsulted {v : Visit} (shut : IsShut v) : engine.consults v = false := by
    cases consulted : engine.consults v with
    | false => rfl
    | true => exact absurd shut (not_isShut_of_consults consulted).2
  induction descent with
  | stay v => simpa using unconsulted shut
  | @turn v next turn path turns further ih =>
    have kept := (effect_of_mem_turns rooted turns).isShut (.inl shut)
    exact List.forall_mem_cons.2 ⟨unconsulted shut, ih kept⟩

/-- Steps nest in a finite tree. -/
theorem finite (v : Visit) : {path | engine.Descent v path}.Finite := by
  induction bound : depthBound v using Nat.strong_induction_on generalizing v with
  | _ n ih =>
    have branches : {path | engine.Descent v path} ⊆
        insert [] (⋃ t ∈ {t | t ∈ engine.turns v}, (t :: ·) '' {path | engine.Descent t.2 path}) := by
      intro path descent
      cases descent with
      | stay => exact Set.mem_insert _ _
      | @turn _ next turn path turns further =>
        refine Set.mem_insert_of_mem _ (Set.mem_biUnion turns ?_)
        exact ⟨path, further, rfl⟩
    refine Set.Finite.subset (Set.Finite.insert _ ?_) branches
    refine Set.Finite.biUnion (List.finite_toSet _) fun t member => Set.Finite.image _ ?_
    have lower := (effect_of_mem_turns rooted member).depthBound_lt
    exact ih _ (bound ▸ lower) t.2 rfl

end Descent

/-- Deeper nesting than any descent makes no difference. -/
theorem resolveWithin_eq {engine : Engine} (rooted : engine.config.root.isAbsolute = true)
    (fs : FileSystem) (host : Host) {v : Visit} {depth depth' : Nat} (enough : depthBound v < depth)
    (enough' : depthBound v < depth') :
    engine.resolveWithin fs host depth v.specifier v.ctx =
      engine.resolveWithin fs host depth' v.specifier v.ctx := by
  induction depth generalizing v depth' with
  | zero => exact absurd enough (Nat.not_lt_zero _)
  | succ depth ih =>
    cases depth' with
    | zero => exact absurd enough' (Nat.not_lt_zero _)
    | succ depth' =>
      refine resolveStep_congr fun turn next member => ?_
      have lower : depthBound next < depthBound v :=
        (effect_of_mem_turns rooted member).depthBound_lt
      exact ih (by omega) (by omega)

/-- What holds of a chain of nested steps. -/
structure Bounded (engine : Engine) (v : Visit) (path : List (Turn × Visit)) : Prop where
  /-- At most six more steps nest in the first. -/
  depth : path.length ≤ 6
  /-- At most one of them comes from an alias that was expanded or a URL that was converted. -/
  aliases : path.countP (·.1.isAlias) ≤ 1
  /-- At most one of them tries a candidate of the mapping. -/
  mappings : path.countP (·.1 == .mapped) ≤ 1
  /-- At most three of the steps consult the mapping. -/
  consultations : (v :: path.map Prod.snd).countP engine.consults ≤ 3
  /-- None of them does behind anything but probes. -/
  unconsulted : ∀ before turn next after, path = before ++ (turn, next) :: after → turn ≠ .probed →
    ∀ w ∈ next :: after.map Prod.snd, engine.consults w = false

theorem Descent.bounded {engine : Engine} {v : Visit} {path : List (Turn × Visit)}
    (rooted : engine.config.root.isAbsolute = true) (descent : engine.Descent v path) :
    engine.Bounded v path where
  depth := (descent.length_le rooted).trans (depthBound_le v)
  aliases := descent.aliases_le rooted
  mappings := descent.mappings_le rooted
  consultations := (descent.consultations_le rooted).trans (consultationBound_le v)
  unconsulted before turn next after whole other := by
    subst whole
    induction before generalizing v with
    | nil =>
      cases descent with
      | turn turns further =>
        exact further.unconsulted rooted ((effect_of_mem_turns rooted turns).isShut (.inr other))
    | cons first before ih =>
      cases descent with
      | turn turns further => exact ih further

/-- If the root is an absolute path, nested steps form a finite tree, in which no chain is longer than
seven steps, whatever the mapping, the workspace, the files and the host are. On no chain is an alias
expanded or a URL converted twice, nor a candidate of the mapping tried behind another. The mapping is
consulted up to three times, for the name of a package, for its probe and for the typed file that stands
for that, but not behind anything else. A step resolves nothing but what the tree has below it, so
seven nested steps are as good as any greater depth. -/
theorem nesting_bounded (engine : Engine) (rooted : engine.config.root.isAbsolute = true) (v : Visit) :
    {path | engine.Descent v path}.Finite ∧
    (∀ path, engine.Descent v path → engine.Bounded v path) ∧
    (∀ fs host (step step' : Resolver),
      (∀ turn next, (turn, next) ∈ engine.turns v →
        step next.specifier next.ctx = step' next.specifier next.ctx) →
      engine.resolveStep fs host step v.specifier v.ctx =
        engine.resolveStep fs host step' v.specifier v.ctx) ∧
    ∀ fs host depth, 7 ≤ depth →
      engine.resolveWithin fs host depth v.specifier v.ctx =
        engine.resolveWithin fs host 7 v.specifier v.ctx := by
  have most := depthBound_le v
  refine ⟨Descent.finite rooted v, fun path descent => descent.bounded rooted, ?_, ?_⟩
  · intro fs host step step' agree
    exact resolveStep_congr agree
  · intro fs host depth enough
    exact resolveWithin_eq rooted fs host (by omega) (by omega)

/-- An engine that maps the name of a package to nothing that is there, and the typed file that stands
for it to another file. -/
def chainEngine : Engine :=
  withMappings ⟨"/repo".toList⟩
    [⟨"pkg".toList, ["none".toList]⟩, ⟨"pkg.ts".toList, ["found.ts".toList]⟩]

/-- A typed file asks for the package. -/
def chainVisit : Visit := ⟨"pkg".toList, .fresh (some ⟨"/repo/a.ts".toList⟩) .module⟩

theorem nesting_bounded_chain :
    chainEngine.config.root.isAbsolute = true ∧
      {path | chainEngine.Descent chainVisit path}.Finite ∧
      ∀ path, chainEngine.Descent chainVisit path → chainEngine.Bounded chainVisit path :=
  have bounded := nesting_bounded chainEngine (by decide) chainVisit
  ⟨by decide, bounded.1, bounded.2.1⟩

/-- The mapping is consulted three times on one chain: for the package, for it with an extension, and for
the typed file that stands for that; and it is the last that finds a module. -/
theorem mapping_consulted_thrice :
    let fs := (⟨[(["repo".toList, "found.ts".toList], .text [])], []⟩ : FileTree).lexical
    chainEngine.config.root.isAbsolute = true ∧
      (∃ path, chainEngine.Descent chainVisit path ∧
        (chainVisit :: path.map Prod.snd).countP chainEngine.consults = 3) ∧
      ((chainEngine.resolve fs (FileHost.host fs Path.rootDirectory) chainVisit.specifier
        chainVisit.ctx).outcome {}).1.toOption =
          some { id := .file ⟨"/repo/found.ts".toList⟩, format := some .commonJs } := by
  intro fs
  refine ⟨by decide, ⟨[(.probed, ⟨"pkg.js".toList, chainVisit.ctx.probe⟩),
    (.probed, ⟨"pkg.ts".toList, chainVisit.ctx.probe⟩)], ?_, by decide +kernel⟩, by decide +kernel⟩
  exact .turn (by decide +kernel) (.turn (by decide +kernel) (.stay _))

end Engine
end ModuleHooks
