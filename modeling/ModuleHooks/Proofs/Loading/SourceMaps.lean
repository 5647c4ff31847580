import ModuleHooks.Proofs.Path.Memo
import ModuleHooks.Proofs.Session
import ModuleHooks.Proofs.Transform.Relocation

/-!
The source maps that an engine remembers. A load puts a map into its source or it does not, and this is
settled before any map is remembered (`attachment?`). Over a session the maps are those that were put into
sources, the latest for each file (`session_sourceMaps`).
-/
namespace ModuleHooks

open Hooked

/-- A map that was put into the source of a load. -/
structure Attachment where
  path : Path
  /-- The code that was made of the file. -/
  code : Text
  /-- The map that the code came with. -/
  original : Text
  /-- This map, pointed at the file. -/
  map : Text
  /-- What the load came to. -/
  result : Except HookError LoadResult

namespace Preparation

/-- The code and the map of a preparation that has both, and the map pointed at the file. -/
def attached? (path : Path) : Preparation → Option (Text × Text × Text)
  | .transformed _ (.ok ⟨code, some original⟩) _ =>
    (SourceMap.relocate original path).toOption.map fun map => (code, original, map)
  | _ => none

/-- The output of a transformation that a preparation may have: the transformer made it, or continuations
were put behind dynamic imports. -/
def IsMade (engine : Engine) (path : Path) : Preparation → Prop
  | .given _ => True
  | .transformed _ output _ => ∃ source, (∃ options, output = engine.transformer source path options) ∨
      ∃ continued, DynamicImport.continued? source = some continued ∧ output = .ok continued

theorem isMade_continued (engine : Engine) (path : Path) (format : ModuleFormat) (source : Text)
    (otherwise : LoadResult) : (Preparation.continued format source otherwise).IsMade engine path := by
  unfold Preparation.continued
  split
  case h_1 => trivial
  case h_2 output found => exact ⟨source, .inr ⟨output, found, rfl⟩⟩

/-- What is remembered is the map that is put into the source. -/
theorem remember_eq (path : Path) (p : Preparation) (maps : PathMemo Text) :
    p.remember path maps =
      match p.attached? path with
      | none => maps
      | some (_, _, map) => maps.insert path map := by
  obtain _ | ⟨format, fault | ⟨code, _ | original⟩, otherwise⟩ := p
  · rfl
  · rfl
  · rfl
  · dsimp only [remember, attached?, Except.bind, TransformOutput.finish]
    cases SourceMap.relocate original path <;> rfl

/-- A map is put into the source behind the code that it belongs to. -/
theorem exists_of_attached? {path : Path} {p : Preparation} {code original map : Text}
    (attached : p.attached? path = some (code, original, map)) :
    ∃ format otherwise, p = .transformed format (.ok ⟨code, some original⟩) otherwise ∧
      SourceMap.relocate original path = .ok map ∧
      p.result path = .ok ⟨some format, some (code ++ SourceMap.comment map), false⟩ := by
  obtain _ | ⟨format, fault | ⟨code', _ | original'⟩, otherwise⟩ := p
  · exact nomatch attached
  · exact nomatch attached
  · exact nomatch attached
  · dsimp only [attached?] at attached
    cases relocated : SourceMap.relocate original' path with
    | error fault =>
      rw [relocated] at attached
      exact nomatch attached
    | ok map' =>
      rw [relocated] at attached
      cases attached
      refine ⟨format, otherwise, rfl, relocated, ?_⟩
      dsimp only [result, Except.bind, TransformOutput.finish]
      rw [relocated]
      rfl

end Preparation

namespace Engine

variable (engine : Engine) (fs : FileSystem) (host : Host) (path : Path)

/-- Whatever is prepared with an output has it from a transformation. -/
theorem prepare_isMade (ctx : LoadContext) :
    Gives (Preparation.IsMade engine path) (prepare engine fs host path ctx) := by
  have compiles (format : ModuleFormat) (source : Text) (target : LoaderKind) :
      Gives (Preparation.IsMade engine path) (do
        return Preparation.transformed format (← compiled engine fs path source target) none) := by
    unfold compiled
    rw [bind_assoc]
    exact .bind fun options => .pure ⟨source, .inl ⟨_, rfl⟩⟩
  unfold prepare
  extract_lets ext
  split
  · exact .bind fun loaded => .pure trivial
  · split
    · refine .bind fun source => ?_
      cases source with
      | error failure => exact .throw _
      | ok source => exact .pure trivial
    · split
      · refine .bind fun loaded => ?_
        split
        · refine .bind fun format => ?_
          split
          · exact .pure ⟨_, .inl ⟨_, rfl⟩⟩
          · exact .pure trivial
        · exact .pure trivial
      · split
        · refine .bind fun loaded => ?_
          split
          · exact .pure trivial
          · split
            · exact .pure trivial
            · split
              · exact .pure (Preparation.isMade_continued engine path _ _ _)
              · exact compiles _ _ _
        · unfold prepareModule
          extract_lets ctx'
          refine .bind fun loaded => ?_
          split
          · exact .pure trivial
          · split
            · exact compiles _ _ _
            · extract_lets known finish
              have finished (format : Option ModuleFormat) :
                  Gives (Preparation.IsMade engine path) (finish format) := by
                dsimp only [finish]
                split
                · exact .pure (Preparation.isMade_continued engine path _ _ _)
                · exact .pure trivial
              split
              · exact .bind finished
              · exact .bind finished

/-! ## One request -/

/-- The map that a request puts into a source, if it is a load that does. -/
def attachment? (o : Occasion) (t : Traced Caches) : Option Attachment :=
  match o.request with
  | .load (.file path) ctx =>
    match ((prepare engine o.files o.host path ctx).runFrom t).1 with
    | .ok preparation =>
      (preparation.attached? path).map fun (code, original, map) =>
        { path, code, original, map
          result := ((engine.load o.files o.host (.file path) ctx).runFrom t).1 }
    | .error _ => none
  | _ => none

/-- The maps behind a load are those before it, with the one that was put into the source. -/
theorem load_sourceMaps (id : ModuleId) (ctx : LoadContext) (t : Traced Caches) :
    ((engine.load fs host id ctx).runFrom t).2.state.sourceMaps =
      match engine.attachment? ⟨fs, host, .load id ctx⟩ t with
      | none => t.state.sourceMaps
      | some a => t.state.sourceMaps.insert a.path a.map := by
  cases id with
  | virtual m =>
    exact congrArg (·.2.state.sourceMaps) (runFrom_liftExcept (loadVirtual fs m ctx) t)
  | url address =>
    show ((Hooked.askLoad host _ ctx >>= _).runFrom t).2.state.sourceMaps = t.state.sourceMaps
    obtain ⟨_, kept⟩ := Within.of_runFrom (.bind Caches.KeepsMaps.repeats
      ((Caches.KeepsMaps.consults fs).askLoad host (.url address) ctx) fun loaded =>
        .pure Caches.KeepsMaps.repeats loaded.result) (t := t) rfl
    exact kept
  | file path =>
    have kept := prepare_sourceMaps engine fs host path ctx t
    dsimp only [load, attachment?]
    rw [loadFile_eq, runFrom_bind]
    rcases ran : (prepare engine fs host path ctx).runFrom t with ⟨e | p, u⟩
    · rw [ran] at kept
      exact kept
    · rw [ran] at kept
      dsimp only at kept ⊢
      rw [Preparation.runFrom_finish, Preparation.remember_eq, kept]
      cases p.attached? path <;> rfl

end Engine

/-- The map is the original one pointed at the file, it is of a transformation of the engine, and the load
gave the code with a comment behind it that carries the map. -/
structure Attachment.IsCarried (engine : Engine) (a : Attachment) : Prop where
  relocated : SourceMap.relocate a.original a.path = .ok a.map
  made : ∃ source,
    (∃ options, engine.transformer source a.path options = .ok ⟨a.code, some a.original⟩) ∨
      DynamicImport.continued? source = some ⟨a.code, some a.original⟩
  given : ∃ format payload,
    a.result = .ok ⟨some format, some (a.code ++ SourceMap.commentStart ++ payload), false⟩ ∧
      SourceMap.carried? payload = some a.map
  pointed : SourceMap.PointsAt a.map a.path

namespace Attachment

/-- The latest map that was put into a source of a file. -/
def latest? (p : Path) (attachments : List Attachment) : Option Attachment :=
  attachments.reverse.find? (·.path.components = p.components)

theorem latest?_append (p : Path) (before after : List Attachment) :
    latest? p (before ++ after) = (latest? p after).or (latest? p before) := by
  simp [latest?, List.find?_append]

theorem of_latest? {p : Path} {attachments : List Attachment} {a : Attachment}
    (found : latest? p attachments = some a) : a ∈ attachments ∧ a.path.components = p.components := by
  unfold latest? at found
  exact ⟨List.mem_reverse.1 (List.mem_of_find?_eq_some found), by simpa using List.find?_some found⟩

theorem latest?_eq_none_iff {p : Path} {attachments : List Attachment} :
    latest? p attachments = none ↔ ∀ a ∈ attachments, a.path.components ≠ p.components := by
  simp [latest?]

end Attachment

namespace Engine

variable {engine : Engine}

/-- A map that is put into a source is carried by it. -/
theorem isCarried_of_attachment? {o : Occasion} {t : Traced Caches} {a : Attachment}
    (attached : engine.attachment? o t = some a) : a.IsCarried engine := by
  obtain ⟨fs, host, request⟩ := o
  cases request with
  | resolve specifier ctx => exact nomatch attached
  | load id ctx =>
  cases id with
  | virtual m => exact nomatch attached
  | url address => exact nomatch attached
  | file path =>
  dsimp only [attachment?] at attached
  rcases prepared : (prepare engine fs host path ctx).runFrom t with ⟨e | p, u⟩
  · rw [prepared] at attached
    exact nomatch attached
  · rw [prepared] at attached
    obtain ⟨⟨code, original, map⟩, found, rfl⟩ := Option.map_eq_some_iff.1 attached
    obtain ⟨format, otherwise, rfl, relocated, given⟩ := Preparation.exists_of_attached? found
    obtain ⟨payload, same, carried⟩ := SourceMap.exists_comment map
    refine ⟨relocated, ?_, ⟨format, payload, ?_, carried⟩, SourceMap.relocate_pointsAt relocated⟩
    · obtain ⟨source, ⟨options, made⟩ | ⟨continued, found, made⟩⟩ :=
        prepare_isMade engine fs host path ctx t _ u prepared
      · exact ⟨source, .inl ⟨options, made.symm⟩⟩
      · obtain rfl := Except.ok.inj made
        exact ⟨source, .inr found⟩
    · show ((loadFile engine fs host path ctx).runFrom t).1 = _
      rw [loadFile_eq, runFrom_bind_ok _ prepared, Preparation.runFrom_finish, List.append_assoc, ← same]
      exact given

/-- A map is put into a source by a load of its file, and recorded with what the load came to. -/
theorem attachment?_load {fs : FileSystem} {host : Host} {id : ModuleId} {ctx : LoadContext}
    {t : Traced Caches} {a : Attachment}
    (attached : engine.attachment? ⟨fs, host, .load id ctx⟩ t = some a) :
    id = .file a.path ∧ a.result = ((engine.load fs host id ctx).runFrom t).1 := by
  cases id with
  | virtual m => exact nomatch attached
  | url address => exact nomatch attached
  | file path =>
    dsimp only [attachment?] at attached
    split at attached
    case h_1 =>
      obtain ⟨found, -, rfl⟩ := Option.map_eq_some_iff.1 attached
      exact ⟨rfl, rfl⟩
    case h_2 => exact nomatch attached

/-! ## Sessions -/

/-- The maps that are put into sources in a session, oldest first. -/
def attachments (engine : Engine) : List Occasion → Traced Caches → List Attachment
  | [], _ => []
  | o :: rest, t =>
    (engine.attachment? o t).toList ++ attachments engine rest ((engine.serve o).runFrom t).2

theorem serve_sourceMaps (engine : Engine) (o : Occasion) (t : Traced Caches) :
    ((engine.serve o).runFrom t).2.state.sourceMaps =
      match engine.attachment? o t with
      | none => t.state.sourceMaps
      | some a => t.state.sourceMaps.insert a.path a.map := by
  obtain ⟨fs, host, request⟩ := o
  cases request with
  | resolve specifier ctx =>
    obtain ⟨_, kept⟩ := Within.of_runFrom (.bind Caches.KeepsMaps.repeats
      ((Caches.KeepsMaps.consults fs).resolve engine host specifier ctx) fun _ =>
        .pure Caches.KeepsMaps.repeats ()) (t := t) rfl
    exact kept
  | load id ctx =>
    have same : ((engine.serve ⟨fs, host, .load id ctx⟩).runFrom t).2 =
        ((engine.load fs host id ctx).runFrom t).2 := by
      unfold serve
      rw [runFrom_bind]
      rcases (engine.load fs host id ctx).runFrom t with ⟨e | loaded, u⟩ <;> rfl
    rw [same]
    exact load_sourceMaps engine fs host id ctx t

theorem isCarried_of_mem_attachments {occasions : List Occasion} {t : Traced Caches} {a : Attachment}
    (member : a ∈ engine.attachments occasions t) : a.IsCarried engine := by
  induction occasions generalizing t with
  | nil => exact nomatch member
  | cons o rest ih =>
    obtain now | later := List.mem_append.1 member
    · exact isCarried_of_attachment? (Option.mem_toList.1 now)
    · exact ih later

/-- Behind a session a file has the latest map that was put into a source of it, or the one that it had. -/
theorem session_get? (engine : Engine) (occasions : List Occasion) (t : Traced Caches) (p : Path) :
    (engine.session occasions t).state.sourceMaps.get? p =
      ((Attachment.latest? p (engine.attachments occasions t)).map (·.map)).or (t.state.sourceMaps.get? p) := by
  induction occasions generalizing t with
  | nil => simp [session, attachments, Attachment.latest?]
  | cons o rest ih =>
    have step := engine.serve_sourceMaps o t
    have further := ih ((engine.serve o).runFrom t).2
    rw [step] at further
    refine further.trans ?_
    rw [attachments, Attachment.latest?_append]
    cases engine.attachment? o t with
    | none => simp [Attachment.latest?]
    | some a =>
      dsimp only
      rw [PathMemo.get?_insert]
      by_cases same : p.components = a.path.components
      · simp [Attachment.latest?, same]
      · simp [Attachment.latest?, same, Ne.symm same]

/-- The source maps of an engine, whatever it was asked for, under whatever files and with whatever hosts. A
load that fails leaves them as they are, and a load of a file changes no entry but that of the file. The entry
of a file is the latest map that was put into a source of it; the load that did so gave the code of the
transformation with a comment behind it that carries this very map. And the map is a JSON object that has the
file as its only source, and no root for it. -/
theorem session_sourceMaps (engine : Engine) (tsconfigs : TsconfigCache) (occasions : List Occasion)
    (files : FileSystem) (host : Host) (id : ModuleId) (ctx : LoadContext) :
    let start : Traced Caches := ⟨Caches.fresh tsconfigs, []⟩
    let now := engine.session occasions start
    let maps := now.state.sourceMaps
    let loading := (engine.load files host id ctx).runFrom now
    (∀ e, loading.1 = .error e → loading.2.state.sourceMaps = maps) ∧
    (∀ p, loading.2.state.sourceMaps.get? p ≠ maps.get? p →
      ∃ q, id = .file q ∧ q.components = p.components) ∧
    (∀ p, maps.get? p = (Attachment.latest? p (engine.attachments occasions start)).map (·.map)) ∧
    (∀ a ∈ engine.attachments occasions start, a.IsCarried engine) ∧
    ∀ p map, maps.get? p = some map →
      ∃ q, q.components = p.components ∧ SourceMap.PointsAt map q := by
  intro start now maps loading
  have step := load_sourceMaps engine files host id ctx now
  have entries (p : Path) : maps.get? p = (Attachment.latest? p (engine.attachments occasions start)).map (·.map) := by
    have found := engine.session_get? occasions start p
    rwa [show start.state.sourceMaps.get? p = none from rfl, Option.or_none] at found
  refine ⟨fun e failed => ?_, fun p changed => ?_, entries, fun a => isCarried_of_mem_attachments,
    fun p map known => ?_⟩
  · cases attached : engine.attachment? ⟨files, host, .load id ctx⟩ now with
    | none =>
      rw [attached] at step
      exact step
    | some a =>
      obtain ⟨format, payload, given, -⟩ := (isCarried_of_attachment? attached).given
      have result := (attachment?_load attached).2
      exact nomatch failed.symm.trans (result.symm.trans given)
  · cases attached : engine.attachment? ⟨files, host, .load id ctx⟩ now with
    | none =>
      rw [attached] at step
      exact absurd (congrArg (PathMemo.get? p) step) changed
    | some a =>
      refine ⟨a.path, (attachment?_load attached).1, ?_⟩
      rw [attached] at step
      by_contra other
      rw [step, PathMemo.get?_insert, if_neg (Ne.symm other)] at changed
      exact changed rfl
  · rw [entries p] at known
    obtain ⟨a, found, rfl⟩ := Option.map_eq_some_iff.1 known
    obtain ⟨member, same⟩ := Attachment.of_latest? found
    exact ⟨a.path, same, (isCarried_of_mem_attachments member).pointed⟩

end Engine
end ModuleHooks
