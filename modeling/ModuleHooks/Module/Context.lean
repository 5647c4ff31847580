import ModuleHooks.Module.Format

/-!
The circumstances of a request: who asks, by which loader, and under which conditions.
-/
namespace ModuleHooks

/-- The circumstances of a resolution. -/
structure ResolveContext where
  importer : Option Path
  kind : LoaderKind
  conditions : List Text
  /-- A fallback is trying a candidate, so no further fallbacks are. -/
  isProbe : Bool := false
  /-- How many aliases were expanded on the way here. -/
  aliasHops : Nat := 0
deriving DecidableEq, Repr

namespace ResolveContext

/-- The circumstances of a fresh request. -/
def fresh (importer : Option Path) (kind : LoaderKind) : ResolveContext :=
  { importer, kind, conditions := kind.conditions }

def importerDirectory (ctx : ResolveContext) : Option Path := ctx.importer.bind Path.parent?

def importerInDependency (ctx : ResolveContext) : Bool :=
  (ctx.importer.map Path.isInsideDependency).getD false

/-- The circumstances of trying a candidate. -/
def probe (ctx : ResolveContext) : ResolveContext := { ctx with isProbe := true }

/-- The circumstances behind an alias. -/
def aliased (ctx : ResolveContext) : ResolveContext := { ctx with aliasHops := ctx.aliasHops + 1 }

end ResolveContext

/-- The circumstances of a load. -/
structure LoadContext where
  kind : LoaderKind
  /-- The format that resolution reported. -/
  format : Option ModuleFormat := none
  /-- The attributes of the import, by name. -/
  attributes : List (Text × Text) := []
deriving DecidableEq, Repr

namespace LoadContext

def typeAttribute : Text := "type".toList

def asksForJson (ctx : LoadContext) : Bool :=
  ctx.attributes.lookup typeAttribute == some ModuleFormat.json.label

/-- Inserts an attribute in the order of names, replacing an earlier value. -/
def insertAttribute (name value : Text) : List (Text × Text) → List (Text × Text)
  | [] => [(name, value)]
  | (n, v) :: rest =>
    match Text.order name n with
    | .lt => (name, value) :: (n, v) :: rest
    | .eq => (name, value) :: rest
    | .gt => (n, v) :: insertAttribute name value rest

def withAttribute (ctx : LoadContext) (name value : Text) : LoadContext :=
  { ctx with attributes := insertAttribute name value ctx.attributes }

end LoadContext
end ModuleHooks
