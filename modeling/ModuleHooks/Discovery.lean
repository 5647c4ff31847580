import ModuleHooks.Engine.State

/-!
Discovering the settings of an engine from the directory that a program is started in. The
environment comes first; else what marks a repository, a package or a configuration is looked for
going up.
-/
namespace ModuleHooks.Discovery

/-- What the environment sets. -/
structure Environment where
  root : Option Text := none
  tsconfig : Option Text := none
deriving DecidableEq, Repr

namespace Environment

def rootVariable : Text := "TSHOOK_ROOT".toList

def tsconfigVariable : Text := "TSHOOK_TSCONFIG_PATH".toList

end Environment

variable (fs : FileSystem)

/-- The names that mark the root of a repository. -/
def repositoryMarks : List Text := [".git".toList, WorkspaceTable.descriptionName]

/-- The nearest directory with a mark of a repository. -/
def repositoryRoot? (start : Path) : Option Path :=
  start.ancestors.find? fun directory =>
    repositoryMarks.any fun mark => fs.hasPath (directory.child mark)

/-- The nearest file of a name at or above a directory. -/
def findUp? (start : Path) (name : Text) : Option Path :=
  (start.ancestors.map (·.child name)).find? fs.isFile

/-- The nearest directory with a manifest. -/
def projectRoot? (start : Path) : Option Path :=
  (findUp? fs start Manifest.fileName).bind Path.parent?

/-- The root: as it is set, else that of the repository, else that of the package, else the starting
directory. -/
def root (environment : Environment) (start : Path) : Path :=
  fs.canonical <|
    (((environment.root.map start.child).or (repositoryRoot? fs start)).or
      (projectRoot? fs start)).getD start

/-- The configuration: as it is set, else the nearest one. -/
def tsconfig? (environment : Environment) (start : Path) : Option Path :=
  (environment.tsconfig.map start.child).or (findUp? fs start Tsconfig.fileName)

/-- The settings for a program that is started in a directory. -/
def settings (environment : Environment) (start : Path) : EngineConfig where
  root := root fs environment start
  tsconfig := tsconfig? fs environment start

end ModuleHooks.Discovery
