import ModuleHooks.Failure
import ModuleHooks.Json.Reader
import ModuleHooks.Json.Writer
import ModuleHooks.Text.Base64

/-!
Source maps: pointing a map at the file that the code was made from, and carrying it in the code.
-/
namespace ModuleHooks.SourceMap

def sourcesMember : Text := "sources".toList

def sourceRootMember : Text := "sourceRoot".toList

/-- The members of a map that points at one file. -/
def pointAt (path : Path) (members : Members Json) : Members Json :=
  Members.insert sourcesMember (.array [.string path.text])
    (Members.remove sourceRootMember members)

/-- The map with the file at `path` as its only source. -/
def relocate (map : Text) (path : Path) : Except TransformFault Text :=
  match Json.parse? map with
  | none => .error .malformedMap
  | some (.object members) => .ok (Json.write (.object (pointAt path members)))
  | some _ => .error .mapNotAnObject

/-- How the comment that carries a map starts. -/
def commentStart : Text := "\n//# sourceMappingURL=data:application/json;base64,".toList

def comment (map : Text) : Text := commentStart ++ Base64.padded (Utf8.encode map)

end ModuleHooks.SourceMap
