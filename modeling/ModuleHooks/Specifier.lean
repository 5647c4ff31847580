import ModuleHooks.Text.Basic

/-!
Specifiers: the text by which one module asks for another. What a specifier denotes is decided from
the text alone, by the first rule that fits.
-/
namespace ModuleHooks

/-- What a specifier denotes. -/
inductive SpecifierKind
  | relative
  | absolute
  | bare
  | url
  | tildeAlias
  | glob
  | workspaceAlias
deriving DecidableEq, Repr

namespace SpecifierKind

/-- The name of the kind. -/
def label : SpecifierKind → Text
  | relative => "relative".toList
  | absolute => "absolute".toList
  | bare => "bare".toList
  | url => "url".toList
  | tildeAlias => "tilde_alias".toList
  | glob => "glob".toList
  | workspaceAlias => "workspace_alias".toList

/-- Whether the specifier names a place in the file system directly. -/
def isPath : SpecifierKind → Bool
  | relative | absolute => true
  | _ => false

end SpecifierKind

namespace Specifier

/-- Whether the text starts with a scheme of two characters or more and a colon. A single letter
before a colon is no scheme. -/
def hasScheme (s : Text) : Bool :=
  match Text.cutAt? ':' s with
  | none => false
  | some (scheme, _) =>
    decide (2 ≤ scheme.length) && (scheme.head?.map Char.isAlpha).getD false &&
      scheme.all fun c => c.isAlphanum || c == '+' || c == '-' || c == '.'

/-- Whether the text is a dot or two, or a path that starts with them. -/
def isRelative (s : Text) : Bool :=
  match s with
  | ['.'] | ['.', '.'] => true
  | '.' :: '/' :: _ => true
  | '.' :: '.' :: '/' :: _ => true
  | _ => false

def isAbsolute (s : Text) : Bool := s.head? == some '/'

def pathKind? (s : Text) : Option SpecifierKind :=
  if isRelative s then some .relative else if isAbsolute s then some .absolute else none

/-- What follows the namespace and its slash; an empty namespace has no members. -/
def afterNamespace? (ns s : Text) : Option Text :=
  if ns.isEmpty then none else Text.after? (ns ++ ['/']) s

/-- The kind of a specifier: a URL, an alias for the root, a glob, a member of the workspace
namespace, a path, or the name of a package. -/
def classify (ns s : Text) : SpecifierKind :=
  if hasScheme s then .url
  else if s.head? = some '~' then .tildeAlias
  else if (pathKind? s).isSome && s.contains '*' then .glob
  else if (afterNamespace? ns s).isSome then .workspaceAlias
  else (pathKind? s).getD .bare

end Specifier
end ModuleHooks
