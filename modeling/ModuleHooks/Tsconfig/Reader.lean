import ModuleHooks.Failure
import ModuleHooks.Json.Reader
import ModuleHooks.Json.Relaxed
import ModuleHooks.Tsconfig.Options

/-!
Reading a project configuration. The text is JSON with comments and trailing commas. Fields that are
not known may hold anything that is spelled as JSON; a known field has to have its type, may be
null, and may be there only once.
-/
namespace ModuleHooks.Tsconfig

/-- The values of the known fields of an object, in the order of `known`. -/
def knownMembers? (known : List Text) (members : List (Text × JsonDocument)) :
    Option (List (Option JsonDocument)) := do
  let named ← members.mapM fun (name, value) => (Json.unescape? name).map (·, value)
  let fields := known.map fun name => (named.filter (·.1 = name)).map (·.2)
  if fields.all (·.length ≤ 1) then some (fields.map List.head?) else none

/-- The values of the known fields of a document: an object by name, or an array of exactly the
fields in order. -/
def fields? (known : List Text) : JsonDocument → Option (List (Option JsonDocument))
  | .object members => knownMembers? known members
  | .array items => if items.length = known.length then some (items.map some) else none
  | _ => none

/-- Reads a field that may be missing or null. -/
def optional {α : Type} (read : JsonDocument → Option α) : Option JsonDocument → Option (Option α)
  | none | some .null => some none
  | some d => (read d).map some

/-- A text. -/
def text? : JsonDocument → Option Text
  | .string body => Json.unescape? body
  | _ => none

/-- A truth value. -/
def flag? : JsonDocument → Option Bool
  | .bool b => some b
  | _ => none

/-- A list of texts. -/
def texts? : JsonDocument → Option (List Text)
  | .array items => items.mapM text?
  | _ => none

/-- One text or a list of texts. -/
def parents? : JsonDocument → Option Extends
  | .string body => (Json.unescape? body).map .one
  | d => (texts? d).map .many

/-- How many arrays and objects may still stand around the value of an option. -/
def optionNesting : Nat := Json.nestingLimit - 2

/-- The patterns with their targets. -/
def paths? (d : JsonDocument) : Option (Members Json) :=
  match Json.ofDocument? optionNesting d with
  | some (.object members) => some members
  | _ => none

/-- The names of the compiler options. -/
def optionNames : List Text :=
  ["baseUrl", "paths", "target", "jsx", "jsxFactory", "jsxFragmentFactory", "jsxImportSource",
    "experimentalDecorators", "useDefineForClassFields", "verbatimModuleSyntax",
    "preserveValueImports", "esModuleInterop", "sourceMap"].map String.toList

/-- The compiler options that a document holds. -/
def options? (d : JsonDocument) : Option CompilerOptions := do
  match ← fields? optionNames d with
  | [baseUrl, paths, target, jsx, jsxFactory, jsxFragmentFactory, jsxImportSource,
      experimentalDecorators, useDefineForClassFields, verbatimModuleSyntax,
      preserveValueImports, esModuleInterop, sourceMap] =>
    return {
      baseUrl := ← optional text? baseUrl
      paths := ← optional paths? paths
      target := ← optional text? target
      jsx := ← optional text? jsx
      jsxFactory := ← optional text? jsxFactory
      jsxFragmentFactory := ← optional text? jsxFragmentFactory
      jsxImportSource := ← optional text? jsxImportSource
      experimentalDecorators := ← optional flag? experimentalDecorators
      useDefineForClassFields := ← optional flag? useDefineForClassFields
      verbatimModuleSyntax := ← optional flag? verbatimModuleSyntax
      preserveValueImports := ← optional flag? preserveValueImports
      esModuleInterop := ← optional flag? esModuleInterop
      sourceMap := ← optional flag? sourceMap }
  | _ => none

def fieldNames : List Text :=
  ["extends", "compilerOptions", "files", "include", "exclude"].map String.toList

/-- The configuration that a document holds. -/
def ofDocument? (d : JsonDocument) : Option Tsconfig := do
  match ← fields? fieldNames d with
  | [parents, options, files, included, excluded] =>
    return {
      parents := ← optional parents? parents
      compilerOptions := ← optional options? options
      files := ← optional texts? files
      included := ← optional texts? included
      excluded := ← optional texts? excluded }
  | _ => none

/-- Reads a configuration. -/
def parse (path : Path) (source : Text) : Except HookError Tsconfig :=
  match (JsonDocument.ofText? (Relaxed.toPlain source)).bind ofDocument? with
  | some config => .ok config
  | none => .error (.config path .malformed)

end ModuleHooks.Tsconfig
