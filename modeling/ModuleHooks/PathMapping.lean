import ModuleHooks.Tsconfig.Options

/-!
The paths mapping of a project: what bare specifiers stand for. An exact key wins; else the pattern
with the most text before its star does; else the specifier is taken from the base, if the project
sets one.
-/
namespace ModuleHooks

/-- A key with the targets that are tried for it. -/
structure PathMapping where
  pattern : Text
  targets : List Text
deriving DecidableEq, Repr

/-- The mappings in order, and the directory that targets are seen from. -/
structure PathMappings where
  base : Path
  hasBaseUrl : Bool
  mappings : List PathMapping
deriving DecidableEq, Repr

namespace PathMapping

def isWildcard (m : PathMapping) : Bool := m.pattern.contains '*'

def lead (m : PathMapping) : Text := Text.upTo '*' m.pattern

/-- The text that the star stands for, when a specifier matches. It may be empty. -/
def capture? (m : PathMapping) (specifier : Text) : Option Text := do
  let (lead, tail) ← Text.cutAt? '*' m.pattern
  (Text.after? lead specifier).bind (Text.before? tail)

end PathMapping

namespace PathMappings

/-- The mappings of keys with targets; a key without any is dropped. -/
def ofEntries (base : Path) (hasBaseUrl : Bool) (entries : List (Text × List Text)) :
    PathMappings where
  base := base
  hasBaseUrl := hasBaseUrl
  mappings := (entries.filter fun (_, targets) => !targets.isEmpty).map fun (p, t) => ⟨p, t⟩

/-- The targets that a value declares: a list of texts, or one. -/
def targetsOf : Json → List Text
  | .array items => Json.texts items
  | .string s => [s]
  | _ => []

/-- The mappings that a configuration declares, if it has paths or a base. -/
def ofTsconfig? (c : LoadedTsconfig) : Option PathMappings := do
  let options ← c.config.compilerOptions
  if options.paths.isNone && options.baseUrl.isNone then none
  else
    let base := ((options.baseUrl.map Path.mk).or options.pathsBase).getD c.directory
    return ofEntries base options.baseUrl.isSome
      ((options.paths.getD []).map fun (pattern, value) => (pattern, targetsOf value))

/-- The more specific of two matches; on a tie the later one. -/
def better (best : Option (PathMapping × Text)) (next : PathMapping × Text) :
    Option (PathMapping × Text) :=
  match best with
  | some b => if next.1.lead.length < b.1.lead.length then some b else some next
  | none => some next

/-- The pattern that matches a specifier best, and what its star stands for. -/
def bestMatch? (m : PathMappings) (specifier : Text) : Option (PathMapping × Text) :=
  let matching := m.mappings.filterMap fun mapping => (mapping.capture? specifier).map (mapping, ·)
  matching.foldl better none

/-- The paths of a mapping's targets, the star in each replaced. -/
def substitute (m : PathMappings) (mapping : PathMapping) (star : Text) : List Path :=
  mapping.targets.map fun target => (m.base.join ⟨Text.fillFirst '*' star target⟩).normalize

/-- The paths to be tried for a specifier, in order. One that is a path itself is not mapped. -/
def candidates (m : PathMappings) (specifier : Text) : List Path :=
  if specifier.startsWith "./".toList || specifier.startsWith "../".toList
      || specifier.head? == some '/' then []
  else
    match m.mappings.find? fun mapping => !mapping.isWildcard && mapping.pattern == specifier with
    | some exact => m.substitute exact []
    | none =>
      match m.bestMatch? specifier with
      | some (mapping, star) => m.substitute mapping star
      | none => if m.hasBaseUrl then [(m.base.join ⟨specifier⟩).normalize] else []

end PathMappings
end ModuleHooks
