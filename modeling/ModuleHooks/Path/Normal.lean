import ModuleHooks.Path.Basic

/-!
Normal paths and what a path says by its text alone: its extension, whether it lies among installed
dependencies, and its form with forward slashes. Nothing here looks at a file system.
-/
namespace ModuleHooks.Path

/-- Takes one component onto the names above it, last first: a step up removes a name, if there is
one. -/
def step (names : List Text) : Component → List Text
  | .name n => n :: names
  | .up => names.tail
  | .root | .here => names

/-- The names that remain when every step up is taken. -/
def normalNames (p : Path) : List Text := (p.components.foldl step []).reverse

/-- The path without dots, steps up and idle slashes. A step up from the start stays there. -/
def normalize (p : Path) : Path :=
  let names := Text.joinWith '/' p.normalNames
  if p.isAbsolute then ⟨'/' :: names⟩ else ⟨names⟩

def dependencyDirectory : Text := "node_modules".toList

def isInsideDependency (p : Path) : Bool := p.components.contains (.name dependencyDirectory)

def toSlash (p : Path) : Text := Text.replaceChar '\\' '/' p.text

/-- Whether a specifier reaches through a dependency directory, with either kind of slash. -/
def crossesDependency (specifier : Text) : Bool :=
  let needle := '/' :: (dependencyDirectory ++ ['/'])
  Text.hasInfix needle specifier || Text.hasInfix needle (Text.replaceChar '\\' '/' specifier)

/-- The last segment of a text, cut at either kind of slash. -/
def lastSegment (s : Text) : Text :=
  (s.reverse.takeWhile fun c => c != '/' && c != '\\').reverse

/-- The extension of a text with its dot. Only the last segment counts, and a dot at its start
begins a name. -/
def extension (s : Text) : Text :=
  let name := lastSegment s
  let tail := (name.reverse.takeWhile (· != '.')).reverse
  if tail.length + 1 < name.length then '.' :: tail else []

def stem (s : Text) : Text := s.take (s.length - (extension s).length)

end ModuleHooks.Path
