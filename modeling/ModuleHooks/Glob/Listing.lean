import ModuleHooks.FileSystem.Basic
import ModuleHooks.Glob.Pattern

/-!
The files that a glob pattern names in a file system. The pattern is taken component by component:
a component without wildcards is followed without looking around, any other is compared with the
names in the directory, and a double star also goes down. A pattern that begins with a dot can name
the directory itself and the one above it.
-/
namespace ModuleHooks.Glob

/-- What is still to be visited: a path to be compared with the components that are left, or one
that is already known to match. -/
inductive Visit
  | found (path : Path)
  | pending (path : Path) (components : List (List GlobToken))

def isDirectories (component : List GlobToken) : Bool := component.contains .anyDirectories

def startDirectory : Path := ⟨['.']⟩

/-- A name seen from a directory; nothing is put in front of names in the starting directory. -/
def nameIn (directory : Path) (name : Text) : Path :=
  if directory.same startDirectory then ⟨name⟩ else directory.child name

/-- The names of the directory itself and of the one above it, where the component is a pattern that
begins with a dot and matches them. -/
def dotNames (component : List GlobToken) : List Text :=
  if component.head? = some (.char '.') then
    [['.'], ['.', '.']].filter (covers component)
  else []

/-- What the components lead to from a directory, in the order in which it is put aside; what is put
aside last is visited first. -/
def expand (fs : FileSystem) : List (List GlobToken) → Path → List Visit
  | [], _ => []
  | component :: rest, directory =>
    let follow (path : Path) : List Visit :=
      if rest.isEmpty then [.found path] else expand fs rest path
    match literal? component with
    | some name =>
      let path := nameIn directory name
      let isDot := name = ['.'] ∨ name = ['.', '.']
      if (isDot ∧ fs.isDirectory directory) ∨ (¬isDot ∧ fs.hasPath path) then follow path else []
    | none =>
      if fs.isDirectory directory then
        let names := (fs.listing directory).filterMap Path.fileName?
        (names.reverse.map fun name => Visit.pending (nameIn directory name) (component :: rest))
          ++ (dotNames component).flatMap fun name => follow (directory.child name)
      else []

/-- The components after a run of double stars, of which the last one is kept aside. -/
def afterDirectories (component : List GlobToken) :
    List (List GlobToken) → List GlobToken × List (List GlobToken)
  | next :: rest =>
    if isDirectories next then afterDirectories next rest else (component, next :: rest)
  | [] => (component, [])

/-- Compares the name of a path with a component that is no double star: the path itself if nothing
is left, and what is put aside. -/
def compareName (fs : FileSystem) (path : Path) :
    List (List GlobToken) → Option Path × List Visit
  | [] => (none, [])
  | component :: rest =>
    match path.fileName? with
    | none => (none, [])
    | some name =>
      if covers component name then
        if rest.isEmpty then (some path, []) else (none, expand fs rest path)
      else (none, [])

/-- The paths that a visit leads to, in the order of visiting; `fuel` bounds how deep it goes. -/
def visit (fs : FileSystem) : Nat → Visit → List Path
  | 0, _ => []
  | _ + 1, .found path => [path]
  | _ + 1, .pending _ [] => []
  | fuel + 1, .pending path (component :: rest) =>
    if isDirectories component then
      let (last, rest) := afterDirectories component rest
      let below := if fs.isDirectory path then expand fs (last :: rest) path else []
      if rest.isEmpty then
        (if fs.isDirectory path then [path] else []) ++ below.reverse.flatMap (visit fs fuel)
      else
        let (matched, aside) := compareName fs path rest
        matched.toList ++ (below ++ aside).reverse.flatMap (visit fs fuel)
    else
      let (matched, aside) := compareName fs path (component :: rest)
      matched.toList ++ aside.reverse.flatMap (visit fs fuel)

/-- The components of a pattern text, and whether it starts at the root. A slash at the end adds
none. -/
def splitPattern (pattern : Text) : Bool × List Text :=
  match pattern with
  | '/' :: rest => (true, if rest.isEmpty then [] else Text.splitAt '/' rest)
  | rest => (false, if rest.isEmpty then [] else Text.splitAt '/' rest)

/-- Every path that matches a pattern in normal form, a path once for each way it matches; `none` if
the text is no pattern. -/
def paths? (fs : FileSystem) (pattern : Path) : Option (List Path) := do
  let _ ← parse? pattern.text
  let (isRooted, texts) := splitPattern pattern.text
  let components ← texts.mapM parse?
  let start := if isRooted then Path.rootDirectory else startDirectory
  let fuel := (components.length + 1) * (fs.depth + 2)
  return (expand fs components start).reverse.flatMap (visit fs fuel)

/-- The files that match a pattern in normal form, in the order of paths. -/
def files? (fs : FileSystem) (pattern : Path) : Option (List Path) :=
  (paths? fs pattern).map fun paths => (paths.filter fs.isFile).mergeSort Path.le

end ModuleHooks.Glob
