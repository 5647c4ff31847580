import ModuleHooks.Engine.State
import ModuleHooks.Version

/-!
What the commands print: an object on one line for machines, or lines for people.
-/
namespace ModuleHooks.CommandLine.Report

def textJson (s : Text) : Json := .string s

/-- A JSON text, null where there is none. -/
def optionalJson (s : Option Text) : Json := (s.map Json.string).getD .null

def countJson (n : Nat) : Json := .number (.whole n)

/-- An object of named members, on a line of its own. -/
def objectLine (members : List (String × Json)) : Text :=
  Json.write (.object (members.map fun (name, value) => (name.toList, value))) ++ ['\n']

/-- The line of an answer: its members follow the mark of success and the version of the form. -/
def answerLine (members : List (String × Json)) : Text :=
  objectLine ([("ok", .bool true), ("schema_version", countJson Version.schema)] ++ members)

/-- The line of a failure. -/
def failureLine (code message : Text) : Text :=
  objectLine
    [("ok", .bool false),
      ("error", .object [("code".toList, textJson code), ("message".toList, textJson message)])]

def lines (texts : List Text) : Text := texts.flatMap (· ++ ['\n'])

/-- The version. -/
def version (asJson : Bool) : Text :=
  if asJson then
    objectLine
      [("ok", .bool true), ("version", textJson Version.number),
        ("schema_version", countJson Version.schema)]
  else lines [Version.text]

/-- A resolved module, with what was asked for. -/
def resolved (asJson : Bool) (specifier : Text) (importer : Path) (kind : LoaderKind)
    (m : ResolvedModule) : Text :=
  if asJson then
    answerLine
      [("specifier", textJson specifier), ("importer", textJson importer.text),
        ("kind", textJson kind.label), ("id", textJson m.id.text),
        ("format", optionalJson (m.format.map ModuleFormat.label)),
        ("short_circuit", .bool m.shortCircuit)]
  else
    lines <| [m.id.text] ++ (m.format.map fun f => "  format: ".toList ++ f.label).toList
      ++ if m.shortCircuit then ["  short-circuit".toList] else []

/-- A source that ends its last line. -/
def closed (source : Text) : Text := if source.endsWith ['\n'] then source else source ++ ['\n']

/-- A loaded module. -/
def loaded (asJson : Bool) (id : ModuleId) (kind : LoaderKind) (r : LoadResult) : Text :=
  if asJson then
    answerLine
      [("id", textJson id.text), ("kind", textJson kind.label),
        ("format", optionalJson (r.format.map ModuleFormat.label)),
        ("short_circuit", .bool r.shortCircuit), ("source", optionalJson r.source)]
  else (r.source.map closed).getD []

/-- The packages of the workspace: what each is called, and where it is from the root. -/
def packages (engine : Engine) : List (Text × Text) :=
  ((engine.workspace.map WorkspaceTable.packages).getD []).map fun (slug, category) =>
    (engine.config.workspaceNamespace ++ '/' :: slug, category ++ '/' :: slug)

/-- The options of the configuration. -/
def options (engine : Engine) : CompilerOptions :=
  (engine.tsconfig.map LoadedTsconfig.compilerOptions).getD {}

/-- The lines about packages. -/
def packageLines (engine : Engine) : List Text :=
  match engine.workspace, packages engine with
  | none, _ => ["No workspaces configured.".toList]
  | some _, [] => ["Workspace declared, but no packages found.".toList]
  | some _, all =>
    ("Workspace packages (".toList ++ Text.ofNat all.length ++ "):".toList)
      :: all.map fun (name, directory) => "  ".toList ++ name ++ " -> ".toList ++ directory

/-- The lines about the paths mapping. -/
def mappingLines (paths : Members Json) : List Text :=
  match paths with
  | [] => []
  | all =>
    [[], "Paths mapping (".toList ++ Text.ofNat all.length ++ "):".toList]
      ++ all.map fun (pattern, targets) =>
        "  ".toList ++ pattern ++ " -> ".toList ++ Json.write targets

/-- The aliases. -/
def aliases (asJson : Bool) (engine : Engine) : Text :=
  let paths := (options engine).paths.getD []
  if asJson then
    answerLine
      [("root", textJson engine.config.root.text), ("workspace", .bool engine.workspace.isSome),
        ("packages", .array ((packages engine).map fun (name, directory) =>
          .object [("alias".toList, textJson name), ("dir".toList, textJson directory)])),
        ("paths", .object paths)]
  else lines (packageLines engine ++ mappingLines paths)

/-- The settings as a JSON object. -/
def configJson (config : EngineConfig) : Json :=
  .object
    [("root".toList, textJson config.root.text),
      ("tsconfig".toList, optionalJson (config.tsconfig.map Path.text)),
      ("workspace_namespace".toList, textJson config.workspaceNamespace)]

/-- The settings. The names of the variables are told that would change them. -/
def config (rootVariable tsconfigVariable : Text) (asJson : Bool) (engine : Engine) : Text :=
  let count := (packages engine).length
  let baseUrl := (options engine).baseUrl
  if asJson then
    answerLine
      [("config", configJson engine.config), ("base_url", optionalJson baseUrl),
        ("workspace_packages", countJson count)]
  else
    lines <|
      ["Root:      ".toList ++ engine.config.root.text,
        "tsconfig:  ".toList ++ ((engine.config.tsconfig.map Path.text).getD
          ("(none; set ".toList ++ tsconfigVariable ++ [')']))]
      ++ (baseUrl.map ("baseUrl:   ".toList ++ ·)).toList
      ++ ["Namespace: ".toList ++ engine.config.workspaceNamespace,
        "Packages:  ".toList ++ Text.ofNat count, [],
        "hint: ".toList ++ rootVariable ++ " overrides the repository root".toList]

end ModuleHooks.CommandLine.Report
