import ModuleHooks.Module.Format
import ModuleHooks.Transform.DynamicImport
import ModuleHooks.Transform.SourceMap
import ModuleHooks.Tsconfig.Options

/-!
Transformers compile sources. Which transformer there is, is not for the hooks to say; the one that
is always there wraps JSON as a module and leaves everything else as it is.
-/
namespace ModuleHooks

/-- What a transformation is asked for. -/
structure TransformOptions where
  /-- The loader that will evaluate the code. -/
  target : LoaderKind
  /-- The options of the configuration that governs the file. -/
  compilerOptions : Option CompilerOptions := none
  /-- Whether a source map is wanted. -/
  sourceMap : Bool := true
deriving BEq, Repr

/-- Compiles the source of a file. -/
abbrev Transformer := Text → Path → TransformOptions → Except TransformFault TransformOutput

namespace Transformer

/-- How the code of a module starts that has a value for its export. -/
def exportLead : LoaderKind → Text
  | .module => "export default ".toList
  | .commonJs => "module.exports = ".toList

/-- Wraps JSON as a module and returns any other source unchanged. -/
def passthrough : Transformer := fun source path options =>
  if Path.extension path.text = ".json".toList then
    match Json.parse? source with
    | some value => .ok ⟨exportLead options.target ++ Json.write value ++ ";\n".toList, none⟩
    | none => .error (.malformedJson path)
  else .ok ⟨source, none⟩

end Transformer
end ModuleHooks
