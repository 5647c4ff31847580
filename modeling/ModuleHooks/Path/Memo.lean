import ModuleHooks.Path.Basic

/-!
Values remembered under paths. A value is kept under the components of its path, so any spelling of
the path finds it.
-/
namespace ModuleHooks

/-- Values under the components of paths, each path once. -/
abbrev PathMemo (α : Type) := List (List Component × α)

namespace PathMemo

variable {α : Type}

def get? (p : Path) (memo : PathMemo α) : Option α := memo.lookup p.components

/-- Remembers a value under components, replacing an earlier one. -/
def insertAt (key : List Component) (value : α) : PathMemo α → PathMemo α
  | [] => [(key, value)]
  | (k, v) :: rest => if k = key then (k, value) :: rest else (k, v) :: insertAt key value rest

/-- Remembers a value under a path, replacing an earlier one. -/
def insert (p : Path) (value : α) (memo : PathMemo α) : PathMemo α :=
  memo.insertAt p.components value

/-- Remembers a value under a path that has none yet. -/
def insertNew (p : Path) (value : α) (memo : PathMemo α) : PathMemo α :=
  if (memo.get? p).isSome then memo else memo ++ [(p.components, value)]

end PathMemo
end ModuleHooks
