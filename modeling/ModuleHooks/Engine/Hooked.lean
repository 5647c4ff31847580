import ModuleHooks.Failure
import ModuleHooks.Module.Context
import ModuleHooks.Module.Identity

/-!
Computations that may fail, keep a state, and leave a trace of what they asked the outside for. The
state and the trace survive a failure: what was learned before it stays learned.
-/
namespace ModuleHooks

/-- A question to the outside. -/
inductive Event
  /-- A file was read. -/
  | read (path : Path)
  /-- A manifest that was not remembered was read. -/
  | readManifest (path : Path)
  /-- A file was read by the host while it answered. -/
  | hostRead (path : Path)
  /-- The host was asked to resolve a specifier. -/
  | resolve (specifier : Text) (ctx : ResolveContext)
  /-- The host was asked to load a module. -/
  | load (id : ModuleId) (ctx : LoadContext)
deriving DecidableEq, Repr

namespace Event

/-- The path that was read, if one was. -/
def readPath? : Event → Option Path
  | read path | readManifest path | hostRead path => some path
  | _ => none

end Event

/-- A state together with the questions asked so far, oldest first. -/
structure Traced (σ : Type) where
  state : σ
  trace : List Event := []

/-- A computation with state `σ`. -/
abbrev Hooked (σ α : Type) := ExceptT HookError (StateM (Traced σ)) α

namespace Hooked

variable {σ τ α : Type}

/-- The outcome from a state, with the state and the questions it leaves. -/
def outcome (x : Hooked σ α) (s : σ) : Except HookError α × Traced σ := x.run.run ⟨s, []⟩

def result (x : Hooked Unit α) : Except HookError α := (x.outcome ()).1

def note (e : Event) : Hooked σ Unit := modify fun t => { t with trace := t.trace ++ [e] }

def state : Hooked σ σ := return (← get).state

def update (f : σ → σ) : Hooked σ Unit := modify fun t => { t with state := f t.state }

/-- Reads a file, noting that it was read. -/
def readText (fs : FileSystem) (path : Path) : Hooked σ (Except ReadFailure Text) := do
  note (.read path)
  return fs.readText path

/-- Reads a file that may be missing; any other failure to read it fails. -/
def readOptional (fs : FileSystem) (path : Path) : Hooked σ (Option Text) := do
  match ← readText fs path with
  | .ok source => return some source
  | .error .missing => return none
  | .error failure => throw (.unreadable path (.failed failure))

/-- The outcome of a computation, failure included. -/
def attempt (x : Hooked σ α) : Hooked σ (Except HookError α) := ExceptT.mk do
  return .ok (← x.run)

/-- Runs a computation on a part of the state. -/
def zoom (part : σ → τ) (put : τ → σ → σ) (x : Hooked τ α) : Hooked σ α := ExceptT.mk fun t =>
  let (answer, inner) := x.run.run ⟨part t.state, t.trace⟩
  (answer, ⟨put inner.state t.state, inner.trace⟩)

end Hooked
end ModuleHooks
