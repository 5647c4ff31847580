import ModuleHooks.Json.Value

/-!
The maps by which a package says what its subpaths and its private names stand for. A map is an
object from keys to targets; a key with one star matches many names, and a target is a text, a list
of targets to choose from, or an object that chooses by condition.
-/
namespace ModuleHooks.Package

def defaultCondition : Text := "default".toList

def isActive (conditions : List Text) (name : Text) : Bool :=
  name == defaultCondition || conditions.contains name

mutual

/-- The text that a target comes to under the conditions: an object takes the first member, in
order, whose condition holds and which comes to something, a list the first such item. -/
def targetText? (conditions : List Text) : Json → Option Text
  | .string s => some s
  | .array items => firstItem? conditions items
  | .object members => firstMember? conditions members
  | _ => none

/-- The text of the first item that comes to one. -/
def firstItem? (conditions : List Text) : List Json → Option Text
  | [] => none
  | item :: items =>
    match targetText? conditions item with
    | some s => some s
    | none => firstItem? conditions items

/-- The text of the first member whose condition holds and which comes to one. -/
def firstMember? (conditions : List Text) : List (Text × Json) → Option Text
  | [] => none
  | (name, item) :: members =>
    match if isActive conditions name then targetText? conditions item else none with
    | some s => some s
    | none => firstMember? conditions members

end

/-- Whether a text names something inside the package. -/
def isInside (target : Text) : Bool := target.startsWith ['.', '/']

/-- The target of an export, which has to lie inside the package. -/
def exportTarget? (conditions : List Text) (target : Json) : Option Text :=
  (targetText? conditions target).filter isInside

/-- The text that stands for the star when `name` has the form of a pattern `lead * tail`. The star
stands for one character at least. -/
def starOf? (pattern name : Text) : Option Text := do
  let (lead, tail) ← Text.cutAt? '*' pattern
  let star ← (Text.after? lead name).bind (Text.before? tail)
  if star.isEmpty then none else some star

/-- Whether the pattern `a` is more specific than `b`: more text before the star, then more text in
all, then earlier in the dictionary. -/
def moreSpecific (a b : Text) : Bool :=
  let lead (pattern : Text) := (Text.upTo '*' pattern).length
  ((compare (lead b) (lead a)).then (compare b.length a.length)).then (Text.order a b) == .lt

/-- The more specific of a match found before and another key that may match. -/
def better (name : Text) (best : Option (Text × Json × Text)) (key : Text) (target : Json) :
    Option (Text × Json × Text) :=
  if key.count '*' = 1 then
    match starOf? key name, best with
    | none, _ => best
    | some star, none => some (key, target, star)
    | some star, some (bestKey, _, _) =>
      if moreSpecific key bestKey then some (key, target, star) else best
  else best

/-- The target of the most specific pattern that matches, and what its star stands for. -/
def bestPattern? (map : Members Json) (name : Text) : Option (Json × Text) :=
  (map.foldl (fun best (key, target) => better name best key target) none).map (·.2)

def stepsUp (s : Text) : Bool := (Text.splitAt '/' s).contains ['.', '.']

/-- Whether the keys of an object are subpaths rather than conditions. -/
def hasSubpaths (members : Members Json) : Bool := members.any fun (key, _) => key.head? == some '.'

/-- The target of the pattern that matches a subpath best. -/
def exportPattern? (map : Members Json) (conditions : List Text) (subpath : Text) :
    Option Text := do
  let (target, star) ← bestPattern? map subpath
  let found ← exportTarget? conditions target
  let filled := Text.fill '*' star found
  if stepsUp filled then none else some filled

/-- The target of a subpath, `.` being the package itself, under an exports value. Anything but an
object of subpaths is the target of the package itself; an exact key goes before patterns, unless
the subpath has a star. -/
def exported? (exports : Json) (conditions : List Text) (subpath : Text) : Option Text :=
  let root := if subpath = ['.'] then exportTarget? conditions exports else none
  match exports with
  | .object members =>
    if hasSubpaths members then
      match Members.get? subpath members with
      | some target =>
        if subpath.contains '*' then exportPattern? members conditions subpath
        else exportTarget? conditions target
      | none => exportPattern? members conditions subpath
    else root
  | _ => root

/-- The target of a private name under an imports value. -/
def imported? (imports : Json) (conditions : List Text) (name : Text) : Option Text :=
  if name.head? = some '#' then
    match imports with
    | .object members =>
      match Members.get? name members with
      | some target => targetText? conditions target
      | none =>
        (bestPattern? members name).bind fun (target, star) =>
          (targetText? conditions target).map (Text.fill '*' star)
    | _ => none
  else none

end ModuleHooks.Package
