import ModuleHooks.Proofs.Caches.Effect

/-!
The dialogue of a resolution with the host. The host is asked again only as long as it finds nothing:
its first success and its first failure of another kind end the dialogue and decide the answer. As far
as a host finds nothing, it is asked what a host that never finds anything is asked.
-/
namespace ModuleHooks

/-- What the host was asked to resolve, if it was. -/
def Event.call? : Event → Option (Text × ResolveContext)
  | .resolve specifier ctx => some (specifier, ctx)
  | _ => none

/-- The host finds nothing for a call. -/
def Host.FindsNothing (host : Host) (call : Text × ResolveContext) : Prop :=
  ∃ e, (host.resolve call.1 call.2).result = .error e ∧ e.isNotFound = true

/-- The failure is that there is no such module, in whatever words. -/
def HookError.IsNoModule (e : HookError) : Prop :=
  ∃ specifier importer, e = .moduleNotFound specifier importer

theorem HookError.IsNoModule.isNotFound {e : HookError} (said : e.IsNoModule) :
    e.isNotFound = true := by
  obtain ⟨specifier, importer, rfl⟩ := said
  rfl

theorem HookError.IsNoModule.dropSuffix {e : HookError} (said : e.IsNoModule) (suffix : Text) :
    (e.dropSuffix suffix).IsNoModule := by
  obtain ⟨specifier, importer, rfl⟩ := said
  exact ⟨_, _, rfl⟩

/-- How the calls of a dialogue decide where it ends: all but the last found nothing, and the last one
too unless it is the one that ends it. -/
def Ending.DecidedBy (host : Host) (calls : List (Text × ResolveContext)) : Ending → Prop
  | answered m _ => ∃ before call, calls = before ++ [call] ∧
      (∀ c ∈ before, host.FindsNothing c) ∧ (host.resolve call.1 call.2).result = .ok m
  | refused e => ∃ before call, calls = before ++ [call] ∧
      (∀ c ∈ before, host.FindsNothing c) ∧
      (host.resolve call.1 call.2).result = .error e ∧ e.isNotFound = false
  | exhausted _ => ∀ c ∈ calls, host.FindsNothing c

theorem Ending.DecidedBy.cons {host : Host} {call : Text × ResolveContext}
    {calls : List (Text × ResolveContext)} {ending : Ending} (first : host.FindsNothing call)
    (decided : ending.DecidedBy host calls) : ending.DecidedBy host (call :: calls) := by
  have longer {before : List (Text × ResolveContext)} (nothing : ∀ c ∈ before, host.FindsNothing c) :
      ∀ c ∈ call :: before, host.FindsNothing c :=
    List.forall_mem_cons.2 ⟨first, nothing⟩
  cases ending with
  | answered m completes =>
    obtain ⟨before, last, rfl, nothing, found⟩ := decided
    exact ⟨call :: before, last, rfl, longer nothing, found⟩
  | refused e =>
    obtain ⟨before, last, rfl, nothing, failed⟩ := decided
    exact ⟨call :: before, last, rfl, longer nothing, failed⟩
  | exhausted leaf => exact longer decided

/-- Whatever the dialogue comes to, all its calls but the last found nothing. -/
theorem Ending.DecidedBy.dropLast {host : Host} {calls : List (Text × ResolveContext)}
    {ending : Ending} (decided : ending.DecidedBy host calls) :
    ∀ call ∈ calls.dropLast, host.FindsNothing call := by
  cases ending with
  | answered m completes =>
    obtain ⟨before, last, rfl, nothing, -⟩ := decided
    simpa using nothing
  | refused e =>
    obtain ⟨before, last, rfl, nothing, -⟩ := decided
    simpa using nothing
  | exhausted leaf => exact fun call member => decided call ((List.dropLast_sublist calls).subset member)

/-- A last call that fails otherwise than by finding nothing is where the dialogue ends. -/
theorem Ending.DecidedBy.refused {host : Host} {calls : List (Text × ResolveContext)}
    {ending : Ending} (decided : ending.DecidedBy host calls) {call : Text × ResolveContext}
    {e : HookError} (last : calls.getLast? = some call)
    (failed : (host.resolve call.1 call.2).result = .error e) (hard : e.isNotFound = false) :
    ending = .refused e := by
  cases ending with
  | answered m completes =>
    obtain ⟨before, call', rfl, -, found⟩ := decided
    obtain rfl : call' = call := by simpa using last
    exact nomatch found.symm.trans failed
  | refused e' =>
    obtain ⟨before, call', rfl, -, failed', -⟩ := decided
    obtain rfl : call' = call := by simpa using last
    rw [Except.error.inj (failed.symm.trans failed')]
  | exhausted leaf =>
    obtain ⟨e', failed', notFound⟩ := decided call (List.mem_of_getLast? last)
    rw [← Except.error.inj (failed.symm.trans failed'), hard] at notFound
    exact nomatch notFound

namespace Plan

theorem decidedBy_calls (host : Host) (p : Plan) : (p.ending host).DecidedBy host (p.calls host) := by
  induction p with
  | stop leaf => exact fun _ member => nomatch member
  | ask specifier ctx completes next ih =>
    cases answer : (host.resolve specifier ctx).result with
    | ok m =>
      simp only [ending, calls, answer]
      exact ⟨[], (specifier, ctx), rfl, by simp, answer⟩
    | error e =>
      cases notFound : e.isNotFound with
      | false =>
        simp only [ending, calls, answer, notFound]
        exact ⟨[], (specifier, ctx), rfl, by simp, answer, notFound⟩
      | true =>
        simp only [ending, calls, answer, notFound, if_true]
        exact (ih e).cons ⟨e, answer, notFound⟩

/-! ## A host that never finds anything -/

/-- Plans that ask the same as long as the host says of everything that there is no such module, in
whatever words. -/
inductive Alike : Plan → Plan → Prop
  | ask (specifier : Text) (ctx : ResolveContext) (completes : Bool) {next next' : HookError → Plan}
      (alike : ∀ e e', e.IsNoModule → e'.IsNoModule → Alike (next e) (next' e')) :
      Alike (ask specifier ctx completes next) (ask specifier ctx completes next')
  | aggregate (specifier : Text) (ctx : ResolveContext) :
      Alike (stop (.aggregate specifier ctx)) (stop (.aggregate specifier ctx))
  | workspace (specifier : Text) (ctx : ResolveContext) :
      Alike (stop (.workspace specifier ctx)) (stop (.workspace specifier ctx))
  | failed (e : HookError) : Alike (stop (.failed e)) (stop (.failed e))
  | missing {e e' : HookError} (said : e.IsNoModule) (said' : e'.IsNoModule) :
      Alike (stop (.missing e)) (stop (.missing e'))

section Alike

variable {planner : Planner} {p q : Plan}

theorem Alike.orElse {other other' : HookError → Plan} (alike : Alike p q)
    (others : ∀ e e', e.IsNoModule → e'.IsNoModule → Alike (other e) (other' e')) :
    Alike (p.orElse other) (q.orElse other') := by
  induction alike with
  | ask specifier ctx completes _ ih => exact .ask _ _ _ fun e e' said said' => ih e e' said said'
  | aggregate specifier ctx => exact .aggregate _ _
  | workspace specifier ctx => exact .workspace _ _
  | failed e => exact .failed e
  | missing said said' => exact others _ _ said said'

theorem Alike.each (steps : ∀ s c, Alike (planner s c) (planner s c)) (ctx : ResolveContext)
    (specifiers : List Text) {next next' : Option HookError → Plan} (none : Alike (next none) (next' none))
    (some : ∀ e e', e.IsNoModule → e'.IsNoModule → Alike (next (some e)) (next' (some e'))) :
    Alike (each planner ctx specifiers next) (each planner ctx specifiers next') := by
  induction specifiers generalizing next next' with
  | nil => exact none
  | cons specifier rest ih =>
    refine (steps specifier ctx).orElse fun e e' said said' => ih ?_ ?_
    · exact some e e' said said'
    · exact fun _ _ _ _ => some e e' said said'

theorem Alike.extensions (steps : ∀ s c, Alike (planner s c) (planner s c)) (specifier : Text)
    (ctx : ResolveContext) {next next' : HookError → Plan}
    (nexts : ∀ e e', e.IsNoModule → e'.IsNoModule → Alike (next e) (next' e')) :
    Alike (extensions planner specifier ctx next) (extensions planner specifier ctx next') := by
  have first : (HookError.moduleNotFound specifier ctx.importer).IsNoModule := ⟨_, _, rfl⟩
  refine .each steps _ _ ?_ fun e e' said said' => ?_
  · exact nexts _ _ (first.dropSuffix _) (first.dropSuffix _)
  · exact nexts _ _ (said.dropSuffix _) (said'.dropSuffix _)

theorem Alike.directory (steps : ∀ s c, Alike (planner s c) (planner s c)) (specifier : Text)
    (ctx : ResolveContext) : Alike (directory planner specifier ctx) (directory planner specifier ctx) := by
  unfold Plan.directory
  extract_lets explicit index
  refine .extensions steps _ _ fun e e' said said' => ?_
  split
  · exact .missing (said.dropSuffix _) (said'.dropSuffix _)
  · exact .extensions steps _ _ fun _ _ _ _ => .missing (said.dropSuffix _) (said'.dropSuffix _)

theorem Alike.byHost (steps : ∀ s c, Alike (planner s c) (planner s c)) (specifier : Text)
    (ctx : ResolveContext) : Alike (byHost planner specifier ctx) (byHost planner specifier ctx) := by
  refine .ask _ _ _ fun e e' said said' => ?_
  split
  · exact .missing said said'
  · have ends : Alike (stop (.missing e)) (stop (.missing e')) := .missing said said'
    obtain ⟨s, i, rfl⟩ := said
    obtain ⟨s', i', rfl⟩ := said'
    exact .extensions steps _ _ fun _ _ _ _ => ends

theorem Alike.plain (engine : Engine) (steps : ∀ s c, Alike (planner s c) (planner s c))
    (kind : SpecifierKind) (specifier : Text) (ctx : ResolveContext) :
    Alike (plain engine planner kind specifier ctx) (plain engine planner kind specifier ctx) := by
  unfold Plan.plain
  split
  · exact .directory steps specifier ctx
  · have typed : Alike
        (Plan.each planner ctx.probe (Engine.typedSpecifiers specifier ctx) fun _ =>
          Plan.byHost planner specifier ctx)
        (Plan.each planner ctx.probe (Engine.typedSpecifiers specifier ctx) fun _ =>
          Plan.byHost planner specifier ctx) :=
      .each steps _ _ (.byHost steps specifier ctx) fun _ _ _ _ => .byHost steps specifier ctx
    exact .each steps _ _ typed fun _ _ _ _ => typed

theorem Alike.step (engine : Engine) (steps : ∀ s c, Alike (planner s c) (planner s c))
    (specifier : Text) (ctx : ResolveContext) :
    Alike (step engine planner specifier ctx) (step engine planner specifier ctx) := by
  have asked (completes : Bool) :
      Alike (.ask specifier ctx completes (stop <| .missing ·))
        (.ask specifier ctx completes (stop <| .missing ·)) :=
    .ask _ _ _ fun _ _ said said' => .missing said said'
  unfold Plan.step
  split
  · exact asked false
  · cases Specifier.classify engine.config.workspaceNamespace specifier with
    | url =>
      cases FileUrl.path? specifier with
      | some path => exact steps path.text ctx
      | none => exact asked false
    | tildeAlias =>
      cases Engine.expandTilde engine.config.root specifier with
      | ok expanded => exact steps expanded ctx.aliased
      | error e => exact .failed e
    | glob => exact .aggregate specifier ctx
    | workspaceAlias => exact .workspace specifier ctx
    | relative => exact .plain engine steps _ specifier ctx
    | absolute => exact .plain engine steps _ specifier ctx
    | bare => exact .plain engine steps _ specifier ctx

/-- The words in which the host finds nothing do not change what it is asked. -/
theorem alike_within (engine : Engine) (depth : Nat) (specifier : Text) (ctx : ResolveContext) :
    Alike (within engine depth specifier ctx) (within engine depth specifier ctx) := by
  induction depth generalizing specifier ctx with
  | zero => exact .missing ⟨_, _, rfl⟩ ⟨_, _, rfl⟩
  | succ depth ih => exact .step engine ih specifier ctx

end Alike

/-- A host is asked what a host that never finds anything is asked, up to its first success. -/
theorem calls_eq_take {host silent : Host} {p q : Plan} (alike : Alike p q)
    (failures : ∀ s c e, (host.resolve s c).result = .error e → e.IsNoModule)
    (never : ∀ s c, ∃ e, (silent.resolve s c).result = .error e ∧ e.IsNoModule) :
    p.calls host = (q.calls silent).take
      ((q.calls silent).findIdx (fun call => (host.resolve call.1 call.2).result.isOk) + 1) := by
  induction alike with
  | ask specifier ctx completes _ ih =>
    obtain ⟨e', silence, said'⟩ := never specifier ctx
    simp only [calls, silence, said'.isNotFound, if_true, List.findIdx_cons]
    cases answer : (host.resolve specifier ctx).result with
    | ok m => simp [Except.isOk, Except.toBool]
    | error e =>
      have said := failures specifier ctx e answer
      simp [said.isNotFound, Except.isOk, Except.toBool, ih e e' said said']
  | aggregate | workspace | failed | missing => rfl

end Plan

/-! ## The dialogue in the trace -/

namespace Engine

variable (engine : Engine) (fs : FileSystem) (host : Host)

/-- What the host is asked to resolve in the course of a resolution, in order. -/
def dialogue (caches : Caches) (specifier : Text) (ctx : ResolveContext) :
    List (Text × ResolveContext) :=
  ((engine.resolve fs host specifier ctx).outcome caches).2.trace.filterMap Event.call?

private theorem filterMap_asking (calls : List (Text × ResolveContext)) :
    (calls.flatMap (Plan.asking host)).filterMap Event.call? = calls := by
  induction calls with
  | nil => rfl
  | cons call rest ih =>
    have read (paths : List Path) : (paths.map Event.hostRead).filterMap Event.call? = [] := by
      simp [Event.call?]
    simp [Plan.asking, Event.call?, read, ih]

private theorem filterMap_of_only {asked : List Event} (only : ∀ e ∈ asked, e.IsManifestRead) :
    asked.filterMap Event.call? = [] := by
  refine List.filterMap_eq_nil_iff.2 fun e member => ?_
  obtain ⟨path, rfl⟩ := only e member
  rfl

/-- The caches have no say in what the host is asked. -/
theorem dialogue_eq (caches : Caches) (specifier : Text) (ctx : ResolveContext) :
    engine.dialogue fs host caches specifier ctx = (engine.plan specifier ctx).calls host := by
  have answers := (Settles.only fs).answer engine ((engine.plan specifier ctx).ending host)
  rw [dialogue, Hooked.outcome_eq_runFrom, runFrom_resolve, answers.runFrom_eq]
  simp [filterMap_asking, filterMap_of_only (answers.outcome caches)]

/-- The result of a resolution is the answer behind its dialogue. -/
theorem resolve_answer (caches : Caches) (specifier : Text) (ctx : ResolveContext) :
    ((engine.resolve fs host specifier ctx).outcome caches).1 =
      ((((engine.plan specifier ctx).ending host).answer engine fs).outcome caches).1 := by
  have answers := (Settles.only fs).answer engine ((engine.plan specifier ctx).ending host)
  rw [Hooked.outcome_eq_runFrom, runFrom_resolve, answers.runFrom_eq]

/-- The answer is the identity of an aggregate. -/
def IsAggregate (m : ResolvedModule) : Prop := ∃ specifier ctx, resolveGlob specifier ctx = .ok m

/-- The answer is what a package of the workspace exports. -/
def IsWorkspaceModule (caches : Caches) (m : ResolvedModule) : Prop :=
  ∃ specifier ctx, ((engine.resolveWorkspace fs specifier ctx).outcome caches).1 = .ok m

/-- The answer is that of the host, with its format filled in at most. -/
def Completes (m answered : ResolvedModule) : Prop :=
  m.id = answered.id ∧ m.shortCircuit = answered.shortCircuit ∧
    (m.format = answered.format ∨ answered.format = none)

variable {engine fs host}

theorem withFormat_completes {m answered : ResolvedModule} {t : Traced Caches}
    (found : ((withFormat fs answered).runFrom t).1 = .ok m) : Completes m answered := by
  unfold withFormat at found
  split at found
  case h_1 path open_ file =>
    rw [Hooked.runFrom_bind] at found
    rcases ran : (detectFormat fs path).runFrom t with ⟨r, u⟩
    rw [ran] at found
    cases r with
    | error e => exact nomatch found
    | ok format =>
      obtain rfl : _ = m := Except.ok.inj found
      exact ⟨rfl, rfl, .inr open_⟩
  case h_2 =>
    obtain rfl : answered = m := Except.ok.inj found
    exact ⟨rfl, rfl, .inl rfl⟩

/-- Where the answer of a resolution comes from. -/
theorem answer_ok {ending : Ending} {caches : Caches} {m : ResolvedModule}
    (found : ((ending.answer engine fs).outcome caches).1 = .ok m) :
    (∃ answered completes, ending = .answered answered completes ∧ Completes m answered) ∨
      (∃ leaf, ending = .exhausted leaf) ∧
        (IsAggregate m ∨ engine.IsWorkspaceModule fs caches m) := by
  cases ending with
  | answered answered completes =>
    refine .inl ⟨answered, completes, rfl, ?_⟩
    cases completes with
    | true => exact withFormat_completes found
    | false =>
      obtain rfl : answered = m := Except.ok.inj found
      exact ⟨rfl, rfl, .inl rfl⟩
  | refused e => cases found
  | exhausted leaf =>
    refine .inr ⟨⟨leaf, rfl⟩, ?_⟩
    cases leaf with
    | aggregate specifier ctx =>
      rw [Hooked.outcome_eq_runFrom] at found
      exact .inl ⟨specifier, ctx, by simpa [Ending.answer, Leaf.answer] using found⟩
    | workspace specifier ctx => exact .inr ⟨specifier, ctx, found⟩
    | failed e => cases found
    | missing e => cases found

/-- The host decides a resolution. Each of its calls but the last found nothing; a failure of another
kind is the answer, and so is what the host found, unless the answer is an aggregate or a module of the
workspace, for which the host has found nothing. A host that finds nothing in one way only is asked
what a host that never finds anything is asked, up to its first success. -/
theorem resolve_dialogue (engine : Engine) (fs : FileSystem) (host : Host) (caches : Caches)
    (specifier : Text) (ctx : ResolveContext) :
    let calls := engine.dialogue fs host caches specifier ctx
    let result := ((engine.resolve fs host specifier ctx).outcome caches).1
    (∀ call ∈ calls.dropLast, host.FindsNothing call) ∧
    (∀ call e, calls.getLast? = some call → (host.resolve call.1 call.2).result = .error e →
      e.isNotFound = false → result = .error e) ∧
    (∀ m, result = .ok m →
      (∃ call answered, calls.getLast? = some call ∧
        (host.resolve call.1 call.2).result = .ok answered ∧ Completes m answered) ∨
      (∀ call ∈ calls, host.FindsNothing call) ∧
        (IsAggregate m ∨ engine.IsWorkspaceModule fs caches m)) ∧
    (∀ silent : Host,
      (∀ s c e, (host.resolve s c).result = .error e → e.IsNoModule) →
      (∀ s c, ∃ e, (silent.resolve s c).result = .error e ∧ e.IsNoModule) →
      calls = (engine.dialogue fs silent caches specifier ctx).take
        ((engine.dialogue fs silent caches specifier ctx).findIdx
          (fun call => (host.resolve call.1 call.2).result.isOk) + 1)) := by
  have decided := (engine.plan specifier ctx).decidedBy_calls host
  simp only [dialogue_eq, resolve_answer]
  refine ⟨decided.dropLast, ?_, ?_, fun silent failures never =>
    Plan.calls_eq_take (Plan.alike_within engine nesting specifier ctx) failures never⟩
  · intro call e last failed hard
    rw [decided.refused last failed hard]
    rfl
  · intro m found
    obtain ⟨answered, completes, ended, completed⟩ | ⟨⟨leaf, ended⟩, own⟩ := answer_ok found
    · rw [ended] at decided
      obtain ⟨before, call, asked, -, answer⟩ := decided
      exact .inl ⟨call, answered, by simp [asked], answer, completed⟩
    · rw [ended] at decided
      exact .inr ⟨decided, own⟩

end Engine
end ModuleHooks
