import ModuleHooks.Host.FileHost
import ModuleHooks.Proofs.Json.Rereading
import ModuleHooks.Proofs.Loading.Dependency
import ModuleHooks.Proofs.Text.Order
import ModuleHooks.Proofs.Tsconfig.Cache

/-!
Loading JSON as a module, from files and without a compiler. A JSON file comes as a module whose export is its value,
or it cannot be read, or the configuration that governs it cannot be loaded (`load_json`). The transformer goes by the
extension: what is JSON only because the import or the context says so is given as it stands (`load_json_unwrapped`).
-/
namespace ModuleHooks

open Hooked

namespace TsconfigCache

/-- The configuration that is found for a file cannot be loaded, for this reason. -/
def FailsFor (fs : FileSystem) (cache : TsconfigCache) (file : Path) (e : HookError) : Prop :=
  ∃ config, (search fs cache.nearestByDirectory (LoadedTsconfig.directoryOf file).ancestors).1 = some config ∧
    (Tsconfig.load fs config).result = .error e

theorem result_of_load_error {fs : FileSystem} {path : Path} {t : Traced TsconfigCache} {e : HookError}
    (failed : ((load fs path).runFrom t).1 = .error e) : (Tsconfig.load fs path).result = .error e := by
  unfold load at failed
  rw [runFrom_bind_ok _ (runFrom_state t)] at failed
  split at failed
  case h_1 => exact nomatch failed
  case h_2 =>
    obtain ⟨r, -, asked, ran⟩ := Tsconfig.comesTo_load fs path
    rw [runFrom_bind, ran] at failed
    rw [result, outcome_eq_runFrom, ran]
    cases within : r with
    | error e' =>
      rw [within] at failed
      exact failed
    | ok config =>
      rw [within] at failed
      exact nomatch failed

/-- Options fail to be told only where the configuration that is found cannot be loaded. -/
theorem failsFor_of_optionsFor_error {fs : FileSystem} {fallback : Option LoadedTsconfig} {file : Path}
    {t : Traced TsconfigCache} {e : HookError} (failed : ((optionsFor fs fallback file).runFrom t).1 = .error e) :
    FailsFor fs t.state file e := by
  have nearest : ((nearest fs (LoadedTsconfig.directoryOf file)).runFrom t).1 = .error e := by
    rcases ran : (nearest fs (LoadedTsconfig.directoryOf file)).runFrom t with ⟨r, u⟩
    rw [runFrom_optionsFor fallback ran] at failed
    cases r with
    | error e' =>
      rw [Except.error.inj failed]
    | ok governing => exact nomatch failed
  unfold TsconfigCache.nearest at nearest
  rw [runFrom_bind_ok _ (runFrom_state t)] at nearest
  dsimp only at nearest
  rw [runFrom_bind_ok _ (runFrom_update _ t)] at nearest
  split at nearest
  case h_1 => exact nomatch nearest
  case h_2 config found =>
    refine ⟨config, found, ?_⟩
    rw [runFrom_bind] at nearest
    split at nearest
    case h_1 => exact nomatch nearest
    case h_2 e' u ran =>
      obtain rfl : e' = e := Except.error.inj nearest
      exact result_of_load_error (congrArg Prod.fst ran)

end TsconfigCache

/-! ## What the host says of a file -/

namespace LoadContext

theorem lookup_insertAttribute (name value : Text) (attributes : List (Text × Text)) :
    (insertAttribute name value attributes).lookup name = some value := by
  induction attributes with
  | nil => simp [insertAttribute]
  | cons first rest ih =>
    unfold insertAttribute
    split
    case h_1 => exact List.lookup_cons_self
    case h_2 => exact List.lookup_cons_self
    case h_3 later =>
      have other : name ≠ first.1 := by
        intro same
        rw [Text.order_eq_iff.2 same] at later
        exact nomatch later
      rw [List.lookup_cons, beq_eq_false_iff_ne.2 other]
      exact ih

theorem asksForJson_withAttribute (ctx : LoadContext) :
    (ctx.withAttribute typeAttribute ModuleFormat.json.label).asksForJson = true := by
  unfold asksForJson withAttribute
  rw [lookup_insertAttribute]
  exact beq_self_eq_true _

end LoadContext

namespace FileHost

/-- The format in which a file is loaded. -/
def formatOf (path : Path) (ctx : LoadContext) : Option ModuleFormat :=
  (ctx.format.or (if ctx.asksForJson then some .json else none)).or (ModuleFormat.ofExtension? path)

theorem load_file (fs : FileSystem) (directory path : Path) (ctx : LoadContext) :
    ((host fs directory).load (.file path) ctx).result =
      match fs.readText path with
      | .error failure => .error (.ofRead path failure)
      | .ok source => .ok ⟨formatOf path ctx, some source⟩ := by
  show ((loadModule fs (.file path) ctx).runFrom ⟨(), []⟩).1 = _
  unfold loadModule
  have reads : (readText fs path : Hooked Unit _).runFrom ⟨(), []⟩ =
      (.ok (fs.readText path), ⟨(), [.read path]⟩) := rfl
  rw [runFrom_bind_ok _ reads]
  cases fs.readText path <;> rfl

/-- That a JSON file is asked for as JSON makes no difference to the host. -/
theorem formatOf_moduleContext (path : Path) (ctx : LoadContext) :
    formatOf path (Engine.moduleContext (Path.extension path.text) ctx) = formatOf path ctx := by
  unfold Engine.moduleContext
  split
  case isTrue named =>
    obtain ⟨named, asks⟩ := Bool.and_eq_true_iff.1 named
    have unasked : ctx.asksForJson = false := by simpa using asks
    have json : ModuleFormat.ofExtension? path = some .json := if_pos (of_decide_eq_true named)
    have format : (ctx.withAttribute LoadContext.typeAttribute ModuleFormat.json.label).format = ctx.format := rfl
    unfold formatOf
    rw [LoadContext.asksForJson_withAttribute, unasked, format, json]
    cases ctx.format <;> rfl
  case isFalse => rfl

end FileHost

/-! ## Loading -/

namespace Transformer

theorem passthrough_json {path : Path} (named : Path.extension path.text = ".json".toList) (source : Text)
    (options : TransformOptions) :
    passthrough source path options =
      match Json.parse? source with
      | some value => .ok ⟨exportLead options.target ++ Json.write value ++ ";\n".toList, none⟩
      | none => .error (.malformedJson path) := if_pos named

theorem passthrough_other {path : Path} (named : Path.extension path.text ≠ ".json".toList) (source : Text)
    (options : TransformOptions) : passthrough source path options = .ok ⟨source, none⟩ := if_neg named

end Transformer

namespace Engine

variable {engine : Engine} {fs : FileSystem} {directory path : Path} {ctx : LoadContext}

/-- What a compilation comes to, if the options are told. -/
theorem runFrom_compile (engine : Engine) (path : Path) (source : Text) (target : LoaderKind) (t : Traced Caches) :
    (∃ e, TsconfigCache.FailsFor fs t.state.tsconfigs path e ∧
      ((compile engine fs source path target).runFrom t).1 = .error e) ∨
    ∃ options, ((compile engine fs source path target).runFrom t).1 =
      match (engine.transformer source path { target, compilerOptions := options }).bind (·.finish path) with
      | .error fault => .error (.transform fault)
      | .ok finished => .ok finished.source := by
  unfold compile onTsconfigs
  rw [runFrom_bind, runFrom_zoom]
  rcases told : (TsconfigCache.optionsFor fs engine.tsconfig path).runFrom ⟨t.state.tsconfigs, t.trace⟩ with
    ⟨e | options, u⟩
  · exact .inl ⟨e, TsconfigCache.failsFor_of_optionsFor_error (congrArg Prod.fst told), rfl⟩
  · refine .inr ⟨options, ?_⟩
    dsimp only
    rw [runFrom_takeOutput]
    cases (engine.transformer source path { target, compilerOptions := options }).bind (·.finish path) <;> rfl

/-- A file that the host loads as JSON is compiled, if it can be read. -/
theorem runFrom_load_json (engine : Engine) (t : Traced Caches) (kind : ctx.kind = .module)
    (outside : path.isInsideDependency = false) (named : Path.extension path.text ≠ [])
    (unstyled : Path.extension path.text ≠ ".css".toList)
    (json : ∀ loaded, ((FileHost.host fs directory).load (.file path) ctx).result = .ok loaded →
      loaded.format = some .json) :
    (∃ failure, fs.readText path = .error failure ∧
      ((load engine fs (FileHost.host fs directory) (.file path) ctx).runFrom t).1 = .error (.ofRead path failure)) ∨
    ∃ source u, fs.readText path = .ok source ∧ u.state = t.state ∧
      ((load engine fs (FileHost.host fs directory) (.file path) ctx).runFrom t).1 =
        ((compile engine fs source path .module).runFrom u).1.map (made .module) := by
  have asModule : load engine fs (FileHost.host fs directory) (.file path) ctx =
      loadAsModule engine fs (FileHost.host fs directory) path (Path.extension path.text) ctx := by
    have written : (Path.extension path.text).isEmpty = false := List.isEmpty_eq_false_iff.2 named
    show loadFile engine fs (FileHost.host fs directory) path ctx = _
    unfold loadFile
    extract_lets ext
    rw [if_neg unstyled, if_neg (by simp [ext, written]), if_neg (by simp [outside]), kind]
  rw [asModule]
  unfold loadAsModule
  extract_lets asked
  rw [runFrom_bind, runFrom_askLoad, FileHost.load_file]
  cases read : fs.readText path with
  | error failure => exact .inl ⟨failure, rfl, rfl⟩
  | ok source =>
    have format : FileHost.formatOf path ctx = some .json :=
      json ⟨FileHost.formatOf path ctx, some source⟩ (by rw [FileHost.load_file, read])
    let asks : List Event := .load (.file path) asked ::
      ((FileHost.host fs directory).load (.file path) asked).reads.map .hostRead
    refine .inr ⟨source, ⟨t.state, t.trace ++ asks⟩, rfl, rfl, ?_⟩
    dsimp only
    rw [FileHost.formatOf_moduleContext, format, if_pos (.inl rfl), runFrom_bind]
    split
    case h_1 ran => rw [ran]; rfl
    case h_2 ran => rw [ran]; rfl

/-- Where nothing but JSON is compiled, a file that the host loads as JSON comes as a module, unless it cannot be read
or the configuration that governs it cannot be loaded. A file with the extension of JSON exports its value, which is
read again from the code but for numbers that are no integers, and is not given if it is malformed. A file with
another extension is given as it is, whatever it contains. -/
theorem load_json (t : Traced Caches) (transforms : engine.transformer = Transformer.passthrough)
    (kind : ctx.kind = .module) (outside : path.isInsideDependency = false)
    (named : Path.extension path.text ≠ []) (unstyled : Path.extension path.text ≠ ".css".toList)
    (json : ∀ loaded, ((FileHost.host fs directory).load (.file path) ctx).result = .ok loaded →
      loaded.format = some .json) :
    let result := ((load engine fs (FileHost.host fs directory) (.file path) ctx).runFrom t).1
    (∃ failure, fs.readText path = .error failure ∧ result = .error (.ofRead path failure)) ∨
    (∃ e, TsconfigCache.FailsFor fs t.state.tsconfigs path e ∧ result = .error e) ∨
    ∃ source, fs.readText path = .ok source ∧
      (Path.extension path.text = ".json".toList →
        (Json.parse? source = none ∧ result = .error (.transform (.malformedJson path))) ∨
        ∃ value code again, Json.parse? source = some value ∧
          result = .ok ⟨some .module, some ("export default ".toList ++ code ++ ";\n".toList), false⟩ ∧
          Json.parse? code = some again ∧ again.masked = value.masked ∧
          ((∀ n ∈ Json.numbers value, n.IsInteger) → again = value)) ∧
      (Path.extension path.text ≠ ".json".toList → result = .ok ⟨some .module, some source, false⟩) := by
  intro result
  obtain unreadable | ⟨source, u, read, same, loads⟩ :=
    runFrom_load_json engine t kind outside named unstyled json
  · exact .inl unreadable
  change result = _ at loads
  obtain ⟨e, fails, failed⟩ | ⟨options, compiled⟩ :=
    runFrom_compile engine path source .module u
  · refine .inr (.inl ⟨e, same ▸ fails, ?_⟩)
    rw [loads, failed]
    rfl
  · refine .inr (.inr ⟨source, read, fun isJson => ?_, fun other => ?_⟩)
    · rw [transforms, Transformer.passthrough_json isJson] at compiled
      cases parsed : Json.parse? source with
      | none =>
        rw [parsed] at compiled
        exact .inl ⟨rfl, by rw [loads, compiled]; rfl⟩
      | some value =>
        rw [parsed] at compiled
        obtain ⟨again, reread, alike, integers⟩ := Json.parse?_write parsed
        exact .inr ⟨value, Json.write value, again, rfl, by rw [loads, compiled]; rfl, reread, alike, integers⟩
    · rw [transforms, Transformer.passthrough_other other] at compiled
      rw [loads, compiled]
      rfl

/-! ## Two files -/

/-- An engine that compiles nothing but JSON. -/
def plainEngine : Engine := ⟨{ root := Path.rootDirectory }, none, none, none, Transformer.passthrough⟩

/-- A tree with one file at the top. -/
def singleTree (name source : Text) : FileSystem := FileTree.lexical ⟨[([name], .text source)], []⟩

theorem load_json_object :
    let source := "\x7b\"a\": [1, \"b\"]\x7d".toList
    let fs := singleTree "data.json".toList source
    let path : Path := ⟨"/data.json".toList⟩
    let ctx : LoadContext := { kind := .module }
    path.isInsideDependency = false ∧ Path.extension path.text = ".json".toList ∧
      (∀ loaded, ((FileHost.host fs Path.rootDirectory).load (.file path) ctx).result = .ok loaded →
        loaded.format = some .json) ∧
      ∃ value code again, Json.parse? source = some value ∧
        ((load plainEngine fs (FileHost.host fs Path.rootDirectory) (.file path) ctx).runFrom ⟨{}, []⟩).1 =
          .ok ⟨some .module, some ("export default ".toList ++ code ++ ";\n".toList), false⟩ ∧
        Json.parse? code = some again ∧ again.masked = value.masked := by
  intro source fs path ctx
  have isJson : Path.extension path.text = ".json".toList := by decide
  have json : ∀ loaded, ((FileHost.host fs Path.rootDirectory).load (.file path) ctx).result = .ok loaded →
      loaded.format = some .json := by
    intro loaded ok
    have format : ((FileHost.host fs Path.rootDirectory).load (.file path) ctx).result.toOption.map (·.format) =
        some (some .json) := by decide +kernel
    rw [ok] at format
    exact Option.some.inj format
  have succeeds : ((load plainEngine fs (FileHost.host fs Path.rootDirectory) (.file path) ctx).runFrom
      ⟨{}, []⟩).1.toOption.isSome = true := by decide +kernel
  refine ⟨by decide, isJson, json, ?_⟩
  obtain ⟨failure, -, failed⟩ | ⟨e, -, failed⟩ | ⟨read, there, wrapped, -⟩ :=
    load_json ⟨{}, []⟩ (rfl : plainEngine.transformer = _) rfl (by decide) (by decide) (by decide) json
  · rw [failed] at succeeds
    exact nomatch succeeds
  · rw [failed] at succeeds
    exact nomatch succeeds
  · obtain ⟨-, failed⟩ | ⟨value, code, again, parsed, given, reread, alike, -⟩ := wrapped isJson
    · rw [failed] at succeeds
      exact nomatch succeeds
    · have same : fs.readText path = .ok source := rfl
      obtain rfl := Except.ok.inj (same.symm.trans there)
      exact ⟨value, code, again, parsed, given, reread, alike⟩

/-- A file that is JSON only because the import says so is given as a module, but it is not made one. -/
theorem load_json_unwrapped :
    let source := "\x7b\"a\":1\x7d".toList
    let fs := singleTree "data.txt".toList source
    let path : Path := ⟨"/data.txt".toList⟩
    let ctx : LoadContext := { kind := .module, attributes := [(LoadContext.typeAttribute, ModuleFormat.json.label)] }
    path.isInsideDependency = false ∧ Path.extension path.text ≠ [] ∧ Path.extension path.text ≠ ".css".toList ∧
      ((FileHost.host fs Path.rootDirectory).load (.file path) ctx).result = .ok ⟨some .json, some source⟩ ∧
      ((load plainEngine fs (FileHost.host fs Path.rootDirectory) (.file path) ctx).runFrom ⟨{}, []⟩).1 =
        .ok ⟨some .module, some source, false⟩ ∧
      ∀ code, source ≠ "export default ".toList ++ code ++ ";\n".toList := by
  intro source fs path ctx
  have loaded : ((FileHost.host fs Path.rootDirectory).load (.file path) ctx).result.toOption =
      some ⟨some .json, some source⟩ := by decide +kernel
  have given : ((load plainEngine fs (FileHost.host fs Path.rootDirectory) (.file path) ctx).runFrom
      ⟨{}, []⟩).1.toOption = some ⟨some .module, some source, false⟩ := by decide +kernel
  refine ⟨by decide, by decide, by decide, eq_ok_of_toOption loaded, eq_ok_of_toOption given, fun code same => ?_⟩
  have first : some '\x7b' = some 'e' := congrArg List.head? same
  exact absurd first (by decide)

end Engine
end ModuleHooks
