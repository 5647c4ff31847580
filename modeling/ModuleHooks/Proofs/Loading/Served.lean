import ModuleHooks.Host.FileHost
import ModuleHooks.FileSystem.Tree
import ModuleHooks.Proofs.Loading.SourceMaps

/-!
The map that is remembered of a file and the source that was served of it last. A load that puts a map into
its source replaces what was remembered; one that does not leaves it, so the map of a source that is served
no longer may stay behind (`session_outlived`).
-/
namespace ModuleHooks

open Hooked

namespace Preparation

/-- The result is given as it is, without a map: there was nothing to transform, the transformation made no
map, or it failed and something else stands in for it. -/
inductive GivesBare (path : Path) : Preparation → LoadResult → Prop
  | untouched (result : LoadResult) : GivesBare path (.given result) result
  | unmapped (format : ModuleFormat) (code : Text) (otherwise : Option LoadResult) :
      GivesBare path (.transformed format (.ok ⟨code, none⟩) otherwise) ⟨some format, some code, false⟩
  | failed {format : ModuleFormat} {output : Except TransformFault TransformOutput} {fault : TransformFault}
      (result : LoadResult) (fails : output.bind (·.finish path) = .error fault) :
      GivesBare path (.transformed format output (some result)) result

/-- A preparation without a map to put in gives its source bare. -/
theorem givesBare_of_unattached {path : Path} {p : Preparation} {result : LoadResult}
    (unattached : p.attached? path = none) (given : p.result path = .ok result) : p.GivesBare path result := by
  obtain same | ⟨format, output, otherwise⟩ := p
  · obtain rfl := Except.ok.inj given
    exact .untouched _
  dsimp only [Preparation.result] at given
  cases finished : output.bind (·.finish path) with
  | error fault =>
    rw [finished] at given
    cases otherwise with
    | none => exact nomatch given
    | some stand =>
      obtain rfl := Except.ok.inj given
      exact .failed _ finished
  | ok source =>
    rw [finished] at given
    obtain rfl := Except.ok.inj given
    obtain fault | ⟨code, _ | original⟩ := output
    · exact nomatch finished
    · obtain rfl := Except.ok.inj finished
      exact .unmapped format code otherwise
    · -- A map that could be pointed at the file would have been put in.
      dsimp only [Except.bind, TransformOutput.finish] at finished
      dsimp only [attached?] at unattached
      cases relocated : SourceMap.relocate original path with
      | error fault =>
        rw [relocated] at finished
        exact nomatch finished
      | ok map =>
        rw [relocated] at unattached
        exact nomatch unattached

end Preparation

namespace Engine

variable {engine : Engine} {fs : FileSystem} {host : Host} {path : Path} {ctx : LoadContext}
  {t : Traced Caches} {result : LoadResult} {a : Attachment}

theorem load_attached (attached : engine.attachment? ⟨fs, host, .load (.file path) ctx⟩ t = some a) :
    ((engine.load fs host (.file path) ctx).runFrom t).2.state.sourceMaps.get? path = some a.map := by
  have same : path = a.path := ModuleId.file.inj (attachment?_load attached).1
  rw [load_sourceMaps, attached]
  dsimp only
  rw [PathMemo.get?_insert, if_pos (by rw [same])]

/-- A load that puts no map in gives what was prepared, bare. -/
theorem load_unattached (unattached : engine.attachment? ⟨fs, host, .load (.file path) ctx⟩ t = none)
    (ok : ((engine.load fs host (.file path) ctx).runFrom t).1 = .ok result) :
    ∃ p u, (prepare engine fs host path ctx).runFrom t = (.ok p, u) ∧ p.GivesBare path result := by
  dsimp only [load] at ok
  rw [loadFile_eq, runFrom_bind] at ok
  dsimp only [attachment?] at unattached
  rcases ran : (prepare engine fs host path ctx).runFrom t with ⟨e | p, u⟩
  · rw [ran] at ok
    exact nomatch ok
  · rw [ran] at ok unattached
    dsimp only at ok
    rw [Preparation.runFrom_finish] at ok
    exact ⟨p, u, rfl, Preparation.givesBare_of_unattached (Option.map_eq_none_iff.1 unattached) ok⟩

/-- What is remembered of a file when a load of it has succeeded, behind any session. A map that the load put
into the source is remembered, and the source carries it. Otherwise the source is given bare, and what was
remembered stays. So the entry is the map in the source that was served, and there is none for a source
without one, exactly if the load put a map in or no load before it had done so for this file. -/
theorem session_served (engine : Engine) (tsconfigs : TsconfigCache) (occasions : List Occasion)
    (files : FileSystem) (host : Host) (path : Path) (ctx : LoadContext) (result : LoadResult) :
    let start : Traced Caches := ⟨Caches.fresh tsconfigs, []⟩
    let now := engine.session occasions start
    let loading := (engine.load files host (.file path) ctx).runFrom now
    let attached := engine.attachment? ⟨files, host, .load (.file path) ctx⟩ now
    let entry := loading.2.state.sourceMaps.get? path
    loading.1 = .ok result →
      (∀ a, attached = some a → entry = some a.map ∧
        ∃ format payload, result = ⟨some format, some (a.code ++ SourceMap.commentStart ++ payload), false⟩ ∧
          SourceMap.carried? payload = entry) ∧
      (attached = none → entry = now.state.sourceMaps.get? path ∧
        ∃ p u, (prepare engine files host path ctx).runFrom now = (.ok p, u) ∧ p.GivesBare path result) ∧
      (entry = attached.map (·.map) ↔
        (attached = none → ∀ a ∈ engine.attachments occasions start, a.path.components ≠ path.components)) := by
  intro start now loading attached entry ok
  have carries (a : Attachment) (is : attached = some a) : entry = some a.map := load_attached is
  have stays (is : attached = none) : entry = now.state.sourceMaps.get? path := by
    show loading.2.state.sourceMaps.get? path = _
    rw [load_sourceMaps, show engine.attachment? _ _ = none from is]
  have before : now.state.sourceMaps.get? path =
      (Attachment.latest? path (engine.attachments occasions start)).map (·.map) := by
    rw [session_get?, show start.state.sourceMaps.get? path = none from rfl, Option.or_none]
  refine ⟨fun a is => ⟨carries a is, ?_⟩, fun is => ⟨stays is, load_unattached is ok⟩, ?_⟩
  · obtain ⟨format, payload, given, carried⟩ := (isCarried_of_attachment? is).given
    rw [(attachment?_load is).2] at given
    exact ⟨format, payload, Except.ok.inj (ok.symm.trans given), carried.trans (carries a is).symm⟩
  · cases is : attached with
    | some a => exact iff_of_true (carries a is) nofun
    | none =>
      rw [stays is, before, Option.map_none, Option.map_eq_none_iff, Attachment.latest?_eq_none_iff]
      exact ⟨fun none _ => none, fun none => none rfl⟩

/-! ## A file that is edited -/

/-- An engine that compiles nothing. -/
def editedEngine : Engine := ⟨{ root := Path.rootDirectory }, none, none, none, Transformer.passthrough⟩

def editedPath : Path := ⟨"/a.mjs".toList⟩

/-- A tree with one script, of this source. -/
def editedTree (source : Text) : FileSystem := FileTree.lexical ⟨[(["a.mjs".toList], .text source)], []⟩

def editedHost (source : Text) : Host := FileHost.host (editedTree source) Path.rootDirectory

/-- The script has been loaded as a module once. -/
def loadedOnce : List Occasion :=
  [⟨editedTree "import('x')".toList, editedHost "import('x')".toList,
    .load (.file editedPath) { kind := .module }⟩]

theorem session_served_edited :
    let now := editedEngine.session loadedOnce ⟨Caches.fresh {}, []⟩
    let source := "1;import('y')".toList
    let loading := (editedEngine.load (editedTree source) (editedHost source) (.file editedPath)
      { kind := .module }).runFrom now
    let attached := editedEngine.attachment?
      ⟨editedTree source, editedHost source, .load (.file editedPath) { kind := .module }⟩ now
    ∃ result a, loading.1 = .ok result ∧ attached = some a ∧
      loading.2.state.sourceMaps.get? editedPath = some a.map ∧
      loading.2.state.sourceMaps.get? editedPath = attached.map (·.map) := by
  intro now source loading attached
  have putIn : attached.isSome = true := by decide +kernel
  have succeeds : loading.1.toOption.isSome = true := by decide +kernel
  obtain ⟨a, is⟩ := Option.isSome_iff_exists.1 putIn
  obtain ⟨result, ok⟩ := Option.isSome_iff_exists.1 succeeds
  -- The loads have to read alike, or they are run to be compared.
  subst attached loading now
  obtain ⟨carries, -, describes⟩ := session_served editedEngine {} loadedOnce (editedTree source)
    (editedHost source) editedPath { kind := .module } result (eq_ok_of_toOption ok)
  refine ⟨result, a, eq_ok_of_toOption ok, is, (carries a is).1, describes.2 fun none => ?_⟩
  exact nomatch is.symm.trans none

/-- The map of a source that is served no longer stays behind: the script is edited and then compiled, to a
source without a map. -/
theorem session_outlived :
    let now := editedEngine.session loadedOnce ⟨Caches.fresh {}, []⟩
    let source := "import('y')".toList
    let loading := (editedEngine.load (editedTree source) (editedHost source) (.file editedPath)
      { kind := .commonJs }).runFrom now
    loading.1 = .ok ⟨some .commonJs, some source, false⟩ ∧
      editedEngine.attachment? ⟨editedTree source, editedHost source,
        .load (.file editedPath) { kind := .commonJs }⟩ now = none ∧
      loading.2.state.sourceMaps.get? editedPath ≠ none := by
  intro now source loading
  have answer : loading.1.toOption = some ⟨some .commonJs, some source, false⟩ := by decide +kernel
  have unattached : (editedEngine.attachment? ⟨editedTree source, editedHost source,
      .load (.file editedPath) { kind := .commonJs }⟩ now).isNone = true := by decide +kernel
  have remembered : (loading.2.state.sourceMaps.get? editedPath).isSome = true := by decide +kernel
  exact ⟨eq_ok_of_toOption answer, Option.isNone_iff_eq_none.1 unattached,
    Option.ne_none_iff_isSome.2 remembered⟩

end Engine
end ModuleHooks
