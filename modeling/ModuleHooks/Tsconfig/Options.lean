import ModuleHooks.Json.Writer
import ModuleHooks.Path.Normal

/-!
Project configurations: the compiler options that are read or passed on, and the lists that say
which files a project has. A configuration that extends others takes from them what it does not
declare itself.
-/
namespace ModuleHooks

/-- The compiler options. -/
structure CompilerOptions where
  baseUrl : Option Text := none
  /-- Patterns with their targets, in the order in which they are declared. -/
  paths : Option (Members Json) := none
  target : Option Text := none
  jsx : Option Text := none
  jsxFactory : Option Text := none
  jsxFragmentFactory : Option Text := none
  jsxImportSource : Option Text := none
  experimentalDecorators : Option Bool := none
  useDefineForClassFields : Option Bool := none
  verbatimModuleSyntax : Option Bool := none
  preserveValueImports : Option Bool := none
  esModuleInterop : Option Bool := none
  sourceMap : Option Bool := none
  /-- The directory of the configuration that declared the paths. -/
  pathsBase : Option Path := none
deriving BEq, Repr

/-- What a configuration extends: one other, or several. -/
inductive Extends
  | one (base : Text)
  | many (bases : List Text)
deriving DecidableEq, Repr

namespace Extends

/-- The configurations that are extended, in order. -/
def bases : Extends → List Text
  | one base => [base]
  | many bases => bases

end Extends

/-- A project configuration. -/
structure Tsconfig where
  parents : Option Extends := none
  compilerOptions : Option CompilerOptions := none
  files : Option (List Text) := none
  included : Option (List Text) := none
  excluded : Option (List Text) := none
deriving BEq, Repr

namespace CompilerOptions

/-- The options of `child`, and those of `base` where it declares none. The paths and the directory
that they are resolved against stay together. -/
def merge (base child : CompilerOptions) : CompilerOptions where
  baseUrl := child.baseUrl.or base.baseUrl
  paths := child.paths.or base.paths
  target := child.target.or base.target
  jsx := child.jsx.or base.jsx
  jsxFactory := child.jsxFactory.or base.jsxFactory
  jsxFragmentFactory := child.jsxFragmentFactory.or base.jsxFragmentFactory
  jsxImportSource := child.jsxImportSource.or base.jsxImportSource
  experimentalDecorators := child.experimentalDecorators.or base.experimentalDecorators
  useDefineForClassFields := child.useDefineForClassFields.or base.useDefineForClassFields
  verbatimModuleSyntax := child.verbatimModuleSyntax.or base.verbatimModuleSyntax
  preserveValueImports := child.preserveValueImports.or base.preserveValueImports
  esModuleInterop := child.esModuleInterop.or base.esModuleInterop
  sourceMap := child.sourceMap.or base.sourceMap
  pathsBase := if child.paths.isSome then child.pathsBase else base.pathsBase

/-- A member of an object for an option that is declared. -/
def member {α : Type} (name : String) (value : Option α) (json : α → Json) : Members Json :=
  (value.map fun v => (name.toList, json v)).toList

/-- The options as a JSON object of those that are declared. -/
def toJson (o : CompilerOptions) : Json := .object <|
  member "baseUrl" o.baseUrl .string ++ member "paths" o.paths .object ++
  member "target" o.target .string ++ member "jsx" o.jsx .string ++
  member "jsxFactory" o.jsxFactory .string ++
  member "jsxFragmentFactory" o.jsxFragmentFactory .string ++
  member "jsxImportSource" o.jsxImportSource .string ++
  member "experimentalDecorators" o.experimentalDecorators .bool ++
  member "useDefineForClassFields" o.useDefineForClassFields .bool ++
  member "verbatimModuleSyntax" o.verbatimModuleSyntax .bool ++
  member "preserveValueImports" o.preserveValueImports .bool ++
  member "esModuleInterop" o.esModuleInterop .bool ++ member "sourceMap" o.sourceMap .bool

end CompilerOptions

namespace Tsconfig

/-- What `child` comes to on top of `base`. -/
def merge (base child : Tsconfig) : Tsconfig where
  parents := none
  compilerOptions :=
    match base.compilerOptions, child.compilerOptions with
    | some b, some c => some (b.merge c)
    | b, c => c.or b
  files := child.files.or base.files
  included := child.included.or base.included
  excluded := child.excluded.or base.excluded

end Tsconfig

/-- A configuration with everything that it extends merged in, and the path it was loaded from. -/
structure LoadedTsconfig where
  path : Path
  config : Tsconfig
deriving BEq, Repr

namespace LoadedTsconfig

/-- The directory that a path is in, the root if it has none. -/
def directoryOf (path : Path) : Path := path.parent?.getD Path.rootDirectory

def directory (c : LoadedTsconfig) : Path := directoryOf c.path

def compilerOptions (c : LoadedTsconfig) : CompilerOptions := c.config.compilerOptions.getD {}

end LoadedTsconfig
end ModuleHooks
