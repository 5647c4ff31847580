import ModuleHooks.Proofs.Caches.Effect

/-!
Sessions. An engine is built with empty caches and serves one request after another, each under the
files and with the host that there are at the time. A relation that governs every request of a session
holds of the session.
-/
namespace ModuleHooks

open Hooked

/-- What an engine is asked for. -/
inductive Request
  | resolve (specifier : Text) (ctx : ResolveContext)
  | load (id : ModuleId) (ctx : LoadContext)

/-- A request, with the files and the host that there are when it is made. -/
structure Occasion where
  files : FileSystem
  host : Host
  request : Request

/-- Caches in which no manifest and no module type is remembered. -/
def Caches.fresh (tsconfigs : TsconfigCache) : Caches := { tsconfigs }

namespace Engine

/-- Serves a request, whatever it comes to. -/
def serve (engine : Engine) (o : Occasion) : Hooked Caches Unit :=
  match o.request with
  | .resolve specifier ctx => do let _ ← engine.resolve o.files o.host specifier ctx
  | .load id ctx => do let _ ← engine.load o.files o.host id ctx

/-- Serves requests in order, failed ones too. -/
def session (engine : Engine) (occasions : List Occasion) (t : Traced Caches) : Traced Caches :=
  occasions.foldl (fun t o => ((engine.serve o).runFrom t).2) t

end Engine

variable {R : Caches → List Event → Caches → Prop}

theorem Governs.serve (engine : Engine) {o : Occasion} (governs : Governs o.files R) :
    Within R (engine.serve o) := by
  obtain ⟨files, host, request⟩ := o
  cases request with
  | resolve specifier ctx =>
    exact .bind governs.toRepeats (governs.resolve engine host specifier ctx) fun _ =>
      .pure governs.toRepeats _
  | load id ctx =>
    exact .bind governs.toRepeats (governs.load engine host id ctx) fun _ =>
      .pure governs.toRepeats _

/-- What governs every request of a session holds from its start to its end. -/
theorem Engine.session_within (engine : Engine) (repeats : Repeats R) (occasions : List Occasion)
    (governs : ∀ o ∈ occasions, Governs o.files R) (c : Caches) :
    ∃ asked u, R c asked u ∧
      ∀ trace, engine.session occasions ⟨c, trace⟩ = ⟨u, trace ++ asked⟩ := by
  induction occasions generalizing c with
  | nil => exact ⟨[], c, repeats.refl c, by simp [session]⟩
  | cons o rest ih =>
    obtain ⟨r, asked, u, held, ran⟩ := (governs o List.mem_cons_self).serve engine c
    obtain ⟨further, v, heldFurther, ranFurther⟩ :=
      ih (fun o member => governs o (List.mem_cons_of_mem _ member)) u
    refine ⟨asked ++ further, v, repeats.trans held heldFurther, fun trace => ?_⟩
    rw [← List.append_assoc, ← ranFurther, session, List.foldl_cons, ran]
    rfl

/-! ## Building an engine -/

section Building

variable {σ : Type} {S : σ → List Event → σ → Prop} {fs : FileSystem}

theorem Hooked.Within.readOptional (repeats : Repeats S) (reads : ∀ s path, S s [.read path] s)
    (path : Path) : Within S (Hooked.readOptional fs path) := by
  refine .bind repeats (.bind repeats (.note fun s => reads s path) fun _ => .pure repeats _)
    fun source => ?_
  split
  · exact .pure repeats _
  · exact .pure repeats _
  · exact .throw repeats _

theorem WorkspaceTable.discover_within (repeats : Repeats S) (reads : ∀ s path, S s [.read path] s)
    (root : Path) : Within S (WorkspaceTable.discover fs root) := by
  refine .bind repeats (.bind repeats (.readOptional repeats reads _) fun description => ?_)
    fun patterns => ?_
  · cases description with
    | some source => exact .pure repeats _
    | none =>
      refine .bind repeats (.readOptional repeats reads _) fun manifest => ?_
      cases manifest with
      | none => exact .pure repeats _
      | some source =>
        dsimp only
        split
        · exact .throw repeats _
        · exact .pure repeats _
  · cases patterns <;> exact .pure repeats _

end Building

/-- Building an engine remembers configurations, but no manifest and no module type. -/
theorem Engine.create_fresh (fs : FileSystem) (config : EngineConfig) (transformer : Transformer) :
    ∃ tsconfigs, ((create fs config transformer).outcome {}).2.state = Caches.fresh tsconfigs := by
  have repeats : Repeats fun (c : Caches) (_ : List Event) c' =>
      ∃ tsconfigs, c' = { c with tsconfigs } :=
    ⟨fun c => ⟨c.tsconfigs, rfl⟩, by rintro c _ _ _ _ ⟨t, rfl⟩ ⟨t', rfl⟩; exact ⟨t', rfl⟩⟩
  refine Within.outcome (.bind repeats ?_ fun tsconfig => .bind repeats ?_ fun workspace =>
    .pure repeats _) {}
  · cases config.tsconfig with
    | none => exact .pure repeats _
    | some path =>
      exact .bind repeats ((TsconfigCache.load_onlyReads path).onTsconfigs fun c _ t _ => ⟨t, rfl⟩)
        fun _ => .pure repeats _
  · exact WorkspaceTable.discover_within repeats (fun c _ => ⟨c.tsconfigs, rfl⟩) _

end ModuleHooks
