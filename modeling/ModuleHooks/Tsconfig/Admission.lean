import ModuleHooks.Glob.Pattern
import ModuleHooks.Tsconfig.Options

/-!
Which files belong to a project. A listed file does in any case; any other has to be included and
not excluded. Without lists everything below the configuration's directory is included, and without
exclusions installed dependencies are excluded.
-/
namespace ModuleHooks.LoadedTsconfig

def everythingBelow (directory : Text) : Text := directory ++ "/**/*".toList

/-- The pattern that an entry stands for: a last segment with neither a star nor a dot names a
directory and means what is below it. -/
def entryPattern (entry : Text) : Text :=
  let last := ((Text.splitAt '/' entry).getLast?).getD []
  if last.contains '*' || last.contains '.' then entry
  else everythingBelow (Text.trimEndOf '/' entry)

def covered (entries : List Text) (file : Text) : Bool :=
  entries.any fun entry => Glob.matchText (entryPattern entry) file

/-- The entries that say what is included. -/
def inclusions (c : LoadedTsconfig) : List Text :=
  match c.config.files, c.config.included with
  | _, some entries => entries
  | some _, none => []
  | none, none => [everythingBelow c.directory.toSlash]

/-- Whether a file is excluded. -/
def isExcluded (c : LoadedTsconfig) (file : Text) : Bool :=
  match c.config.excluded with
  | some entries => covered entries file
  | none => (Path.mk file).isInsideDependency

/-- Whether a file belongs to the project. -/
def admits (c : LoadedTsconfig) (p : Path) : Bool :=
  let file := p.normalize.toSlash
  (c.config.files.getD []).contains file || (!c.isExcluded file && covered c.inclusions file)

end ModuleHooks.LoadedTsconfig
