import ModuleHooks.Text.Basic

/-!
Paths. A path keeps the text it was built from, and its meaning is a list of components: repeated
slashes, a slash at the end and a dot inside mean nothing, while two dots stand for a step up that
only `Path.normalize` takes. Two paths are the same when their components are. A path is Unicode text; one
that a disk keeps as other bytes is none here.
-/
namespace ModuleHooks

/-- A path as it was written. -/
structure Path where
  text : Text
deriving DecidableEq, Repr, Inhabited

/-- A component of a path. -/
inductive Component
  | root
  | here
  | up
  | name (n : Text)
deriving DecidableEq, Repr

namespace Component

/-- The place of each kind of component in the order of paths. -/
def rank : Component → Nat
  | root => 0
  | here => 1
  | up => 2
  | name _ => 3

/-- Components of one kind are ordered by name. -/
def order : Component → Component → Ordering
  | name a, name b => Text.order a b
  | a, b => compare a.rank b.rank

end Component

namespace Path

def ofText (s : Text) : Path := ⟨s⟩

def rootDirectory : Path := ⟨['/']⟩

def isAbsolute (p : Path) : Bool := p.text.head? == some '/'

/-- The text before the names, a slash or a dot that stands for the starting directory, and the text
of the names. -/
def split (s : Text) : Text × Text :=
  match s with
  | '/' :: body => (['/'], body)
  | ['.'] => (['.'], [])
  | '.' :: '/' :: body => (['.'], '/' :: body)
  | body => ([], body)

/-- Whether a piece between slashes means nothing. -/
def isIdle (piece : Text) : Bool := piece.isEmpty || piece == ['.']

/-- The component that a piece between slashes stands for. -/
def componentOf (piece : Text) : Component := if piece = ['.', '.'] then .up else .name piece

/-- The component in front of the names. -/
def leading (front : Text) : List Component :=
  match front with
  | ['/'] => [.root]
  | ['.'] => [.here]
  | _ => []

/-- The components of a path. -/
def components (p : Path) : List Component :=
  let (front, body) := split p.text
  leading front ++ ((Text.splitAt '/' body).filter (!isIdle ·)).map componentOf

def same (p q : Path) : Bool := p.components == q.components

/-- The pieces without those at the end that mean nothing. -/
def trimIdle (pieces : List Text) : List Text := (pieces.reverse.dropWhile isIdle).reverse

/-- The path without its last component; neither the root nor the empty path has one. -/
def parent? (p : Path) : Option Path :=
  let (front, body) := split p.text
  match trimIdle (Text.splitAt '/' body) with
  | [] => if front = ['.'] then some ⟨[]⟩ else none
  | pieces => some ⟨front ++ Text.joinWith '/' (trimIdle pieces.dropLast)⟩

/-- The last component, when it is a name. -/
def fileName? (p : Path) : Option Text :=
  match p.components.getLast? with
  | some (.name n) => some n
  | _ => none

/-- The path and the first `fuel` directories above it. -/
def ancestorsWithin : Nat → Path → List Path
  | 0, p => [p]
  | fuel + 1, p => p :: (p.parent?.map (ancestorsWithin fuel)).getD []

/-- The path and every directory above it, the nearest first. -/
def ancestors (p : Path) : List Path := ancestorsWithin p.text.length p

/-- The path `q` seen from `p`: an absolute one is itself. -/
def join (p q : Path) : Path :=
  if q.isAbsolute then q
  else if p.text.isEmpty || p.text.getLast? == some '/' then ⟨p.text ++ q.text⟩
  else ⟨p.text ++ '/' :: q.text⟩

def child (p : Path) (name : Text) : Path := p.join ⟨name⟩

/-- The order of paths: component by component. -/
def orderComponents : List Component → List Component → Ordering
  | [], [] => .eq
  | [], _ :: _ => .lt
  | _ :: _, [] => .gt
  | a :: r, b :: t => (Component.order a b).then (orderComponents r t)

/-- Whether `p` comes before `q` or has the same components. -/
def le (p q : Path) : Bool := orderComponents p.components q.components != .gt

/-- The pieces behind the first `n` that mean something. -/
def dropNames : Nat → List Text → List Text
  | 0, pieces => pieces
  | _ + 1, [] => []
  | n + 1, piece :: pieces => dropNames (if isIdle piece then n + 1 else n) pieces

/-- The path below `base`, when `p` lies there, as it is written in `p`; only what means nothing at
its ends is left out. -/
def below? (base p : Path) : Option Path :=
  if base.components.isPrefixOf p.components then
    let (front, body) := split p.text
    let pieces := trimIdle (Text.splitAt '/' body)
    match base.components.length with
    | 0 => some ⟨front ++ Text.joinWith '/' pieces⟩
    | n =>
      let rest := dropNames (n - (leading front).length) pieces
      some ⟨Text.joinWith '/' (rest.dropWhile isIdle)⟩
  else none

end Path
end ModuleHooks
