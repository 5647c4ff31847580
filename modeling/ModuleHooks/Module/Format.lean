import ModuleHooks.Path.Normal

/-!
How a module is evaluated: the loader that asks for it, the format of its source, and the format
that the extension of a file settles.
-/
namespace ModuleHooks

/-- The loader that evaluates a module: by `require`, or by `import`. -/
inductive LoaderKind
  | commonJs
  | module
deriving DecidableEq, Repr

namespace LoaderKind

/-- The short name of a loader. -/
def label : LoaderKind → Text
  | commonJs => "cjs".toList
  | module => "esm".toList

def ofLabel? (s : Text) : Option LoaderKind :=
  if s = commonJs.label then some commonJs else if s = module.label then some module else none

/-- The conditions that hold for a loader before any other is given. -/
def conditions : LoaderKind → List Text
  | commonJs => ["node".toList, "require".toList]
  | module => ["node".toList, "import".toList]

end LoaderKind

/-- The format of a module's source. -/
inductive ModuleFormat
  | commonJs
  | module
  | json
  | builtin
deriving DecidableEq, Repr

namespace ModuleFormat

/-- The name of a format. -/
def label : ModuleFormat → Text
  | commonJs => "commonjs".toList
  | module => "module".toList
  | json => "json".toList
  | builtin => "builtin".toList

/-- The format that a loader's own modules have. -/
def ofLoader : LoaderKind → ModuleFormat
  | .commonJs => commonJs
  | .module => module

/-- The format that the extension of a path settles by itself. -/
def ofExtension? (p : Path) : Option ModuleFormat :=
  let ext := Path.extension p.text
  if ext = ".json".toList then some json
  else if ext = ".mjs".toList ∨ ext = ".mts".toList then some module
  else if ext = ".cjs".toList ∨ ext = ".cts".toList then some commonJs
  else none

end ModuleFormat

/-- The type that a package declares for its modules. -/
inductive ModuleType
  | commonJs
  | module
deriving DecidableEq, Repr

namespace ModuleType

def ofLabel? (s : Text) : Option ModuleType :=
  if s = ModuleFormat.module.label then some module
  else if s = ModuleFormat.commonJs.label then some commonJs
  else none

/-- The format of a package's modules. -/
def format : ModuleType → ModuleFormat
  | commonJs => .commonJs
  | module => .module

end ModuleType
end ModuleHooks
