import ModuleHooks.Engine.Hooked
import ModuleHooks.Package.Manifest
import ModuleHooks.Workspace.PackageList

/-!
The packages of a workspace by slug, each with the category directory that holds it. Packages are
found through the patterns that the workspace declares; of two packages with one slug the first
found stays.
-/
namespace ModuleHooks

/-- The packages of the workspace at a root, in the order of slugs, each slug once. -/
structure WorkspaceTable where
  root : Path
  packages : List (Text × Text)
deriving DecidableEq, Repr

namespace WorkspaceTable

/-- Inserts a slug in order; `keep` says whether an earlier entry stays. -/
def insertSlug (keep : Bool) (slug category : Text) : List (Text × Text) → List (Text × Text)
  | [] => [(slug, category)]
  | (s, c) :: rest =>
    match Text.order slug s with
    | .lt => (slug, category) :: (s, c) :: rest
    | .eq => (if keep then (s, c) else (slug, category)) :: rest
    | .gt => (s, c) :: insertSlug keep slug category rest

/-- The table of given slugs and categories; of two entries for a slug the last stays. -/
def ofEntries (root : Path) (entries : List (Text × Text)) : WorkspaceTable :=
  ⟨root, entries.foldl (fun table (slug, category) => insertSlug false slug category table) []⟩

def category? (t : WorkspaceTable) (slug : Text) : Option Text := t.packages.lookup slug

def directory? (t : WorkspaceTable) (slug : Text) : Option Path :=
  (t.category? slug).map fun category => (t.root.child category).child slug

def descriptionName : Text := "pnpm-workspace.yaml".toList

def workspacesField : Text := "workspaces".toList

/-- The patterns that a manifest declares: a list, or an object with a list of packages. -/
def declaredPatterns? (manifest : Json) : Option (List Text) :=
  match manifest.member? workspacesField with
  | some (.array items) => some (Json.texts items)
  | some (.object members) =>
    match Members.get? "packages".toList members with
    | some (.array items) => some (Json.texts items)
    | _ => some []
  | _ => none

/-- The patterns of the workspace at a root, if one is declared: by its description, or else by the
manifest at the root. -/
def patterns? {σ : Type} (fs : FileSystem) (root : Path) : Hooked σ (Option (List Text)) := do
  match ← Hooked.readOptional fs (root.child descriptionName) with
  | some source => return some (PackageList.parse source)
  | none =>
    let path := Manifest.pathIn root
    match ← Hooked.readOptional fs path with
    | none => return none
    | some source =>
      match Json.parse? source with
      | none => throw (.manifestMalformed path)
      | some manifest => return declaredPatterns? manifest

/-- The pattern without `./` in front, however often, and without slashes at its end; `fuel` bounds
how often. -/
def dropHere : Nat → Text → Text
  | fuel + 1, '.' :: '/' :: rest => dropHere fuel rest
  | _, s => s

/-- The pattern in its plain form. -/
def plainPattern (pattern : Text) : Text := Text.trimEndOf '/' (dropHere pattern.length pattern)

/-- The directory whose packages a pattern means, if it ends in one star or two. -/
def categoryOf? (pattern : Text) : Option Text :=
  (Text.before? "/**".toList pattern).or (Text.before? "/*".toList pattern)

def hasManifest (fs : FileSystem) (directory : Path) : Bool := fs.isFile (Manifest.pathIn directory)

/-- The packages directly in a category. -/
def inCategory (fs : FileSystem) (root : Path) (category : Text) : List (Text × Text) :=
  let directory := root.child category
  if fs.isDirectory directory then
    let holding := (fs.listing directory).filter fun entry =>
      fs.isDirectory entry && hasManifest fs entry
    holding.filterMap fun entry => entry.fileName?.map (·, category)
  else []

/-- The package that a pattern without a star names. -/
def named (fs : FileSystem) (root : Path) (pattern : Text) : List (Text × Text) :=
  match (Path.mk pattern).fileName?, (Path.mk pattern).parent? with
  | some slug, some category =>
    if hasManifest fs (root.child pattern) then [(slug, category.text)] else []
  | _, _ => []

/-- The packages that a pattern means, each with its category. A star elsewhere than at the end
means nothing. -/
def expandPattern (fs : FileSystem) (root : Path) (pattern : Text) : List (Text × Text) :=
  let pattern := plainPattern pattern
  match categoryOf? pattern with
  | some category => inCategory fs root category
  | none => if pattern.contains '*' then [] else named fs root pattern

/-- Whether a pattern takes packages out; such patterns are passed over. -/
def isNegative (pattern : Text) : Bool := pattern.head? == some '!'

/-- The table of the workspace at a root, if one is declared. -/
def discover {σ : Type} (fs : FileSystem) (root : Path) : Hooked σ (Option WorkspaceTable) := do
  match ← patterns? fs root with
  | none => return none
  | some patterns =>
    let found := (patterns.filter (!isNegative ·)).flatMap (expandPattern fs root)
    return some
      ⟨root, found.foldl (fun table (slug, category) => insertSlug true slug category table) []⟩

end WorkspaceTable
end ModuleHooks
