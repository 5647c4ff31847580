import ModuleHooks.FileSystem.Basic

/-!
What can go wrong. Every failure is a cause; its code and its wording are functions of the cause.
Only the failures of the not-found class let a chain of fallbacks go on.
-/
namespace ModuleHooks

/-- Why an alias cannot be resolved. -/
inductive AliasFault
  | tildeGrammar
  | globWithoutImporter
  | missingSlug
  | noPackages
  | unknownPackage (ns slug : Text)
  | invalidGlob
  | reported (reason : Text)
deriving DecidableEq, Repr

/-- Why a configuration cannot be used. -/
inductive ConfigFault
  | malformed
  | cycle
  | missingBase (base : Text)
deriving DecidableEq, Repr

/-- Why a file that is needed cannot be read. -/
inductive ReadCause
  | failed (failure : ReadFailure)
  /-- The file was looked for before and was not there. -/
  | absent
deriving DecidableEq, Repr

/-- Why a source cannot be transformed. -/
inductive TransformFault
  | unsupportedFile (message : Text)
  | malformedJson (path : Path)
  | malformedMap
  | mapNotAnObject
  | reported (code message : Text)
deriving DecidableEq, Repr

/-- What a host reports besides a module that is not there. -/
inductive HostFault
  | invalidFileUrl (url : Text)
  | unsupportedScheme (specifier : Text)
  | unloadableUrl (url : Text)
  | virtualModule (pattern : Text)
  | reported (message : Text)
deriving DecidableEq, Repr

/-- A failure to resolve or to load. -/
inductive HookError
  | unresolvedAlias (specifier : Text) (fault : AliasFault)
  | exportNotDefined (subpath : Text) (manifest : Path)
  | moduleNotFound (specifier : Text) (importer : Option Path)
  | directoryImport (specifier : Text) (importer : Option Path)
  | manifestMalformed (path : Path)
  | config (path : Path) (fault : ConfigFault)
  | unreadable (path : Path) (cause : ReadCause)
  | transform (fault : TransformFault)
  | host (fault : HostFault)
deriving DecidableEq, Repr

def malformedJsonReason : Text := "malformed JSON".toList

namespace AliasFault

/-- The fault in words. -/
def reason : AliasFault → Text
  | tildeGrammar => "expected '~' or '~/<path>'".toList
  | globWithoutImporter => "glob imports need an importing module".toList
  | missingSlug => "missing package slug".toList
  | noPackages => "no workspace packages are declared".toList
  | unknownPackage ns slug =>
    "no workspace package named '".toList ++ ns ++ '/' :: slug ++ "'".toList
  | invalidGlob => "invalid glob pattern: malformed wildcard".toList
  | reported reason => reason

end AliasFault

namespace ConfigFault

def message : ConfigFault → Text
  | malformed => malformedJsonReason
  | cycle => "tsconfig extends cycle detected".toList
  | missingBase base => "cannot find extended config '".toList ++ base ++ "'".toList

end ConfigFault

namespace ReadCause

/-- The cause in words. -/
def reason : ReadCause → Text
  | failed failure => failure.reason
  | absent => "entity not found".toList

end ReadCause

namespace TransformFault

/-- The code of the fault. -/
def code : TransformFault → Text
  | unsupportedFile _ => "TRANSFORM_UNSUPPORTED_FILE".toList
  | malformedJson _ => "TRANSFORM_PARSE_ERROR".toList
  | malformedMap | mapNotAnObject => "TRANSFORM_SOURCE_MAP".toList
  | reported code _ => code

/-- The fault in words, without its code. -/
def detail : TransformFault → Text
  | unsupportedFile message => message
  | malformedJson path => path.text ++ ": ".toList ++ malformedJsonReason
  | malformedMap => "invalid source map: ".toList ++ malformedJsonReason
  | mapNotAnObject => "source map is not a JSON object".toList
  | reported _ message => message

def message (fault : TransformFault) : Text := fault.code ++ ": ".toList ++ fault.detail

end TransformFault

namespace HostFault

def message : HostFault → Text
  | invalidFileUrl url => "Invalid file URL '".toList ++ url ++ "'".toList
  | unsupportedScheme specifier => "Unsupported URL scheme in '".toList ++ specifier ++ "'".toList
  | unloadableUrl url => "Cannot load '".toList ++ url ++ "'".toList
  | virtualModule pattern =>
    "Virtual module '".toList ++ pattern ++ "' must be loaded through the engine".toList
  | reported message => message

end HostFault

namespace HookError

/-- Whether the failure says that nothing was found, so that something else may be tried. -/
def isNotFound : HookError → Bool
  | moduleNotFound .. | directoryImport .. | exportNotDefined .. => true
  | _ => false

/-- The code of a failure. -/
def code : HookError → Text
  | unresolvedAlias .. => "ERR_ALIAS_RESOLUTION".toList
  | exportNotDefined .. => "ERR_PACKAGE_PATH_NOT_EXPORTED".toList
  | moduleNotFound .. => "ERR_MODULE_NOT_FOUND".toList
  | directoryImport .. => "ERR_UNSUPPORTED_DIR_IMPORT".toList
  | manifestMalformed .. => "ERR_MANIFEST_PARSE".toList
  | config .. => "ERR_CONFIG_PARSE".toList
  | unreadable .. => "ERR_READ".toList
  | transform .. => "ERR_TRANSFORM".toList
  | host .. => "ERR_HOST".toList

/-- Names the importer at the end of a message. -/
def importedFrom : Option Path → Text
  | some importer => " imported from ".toList ++ importer.text
  | none => []

def message : HookError → Text
  | unresolvedAlias specifier fault =>
    "Cannot resolve alias '".toList ++ specifier ++ "': ".toList ++ fault.reason
  | exportNotDefined subpath manifest =>
    "Package subpath '".toList ++ subpath ++ "' is not defined by \"exports\" in ".toList
      ++ manifest.text
  | moduleNotFound specifier importer =>
    "Cannot find module '".toList ++ specifier ++ "'".toList ++ importedFrom importer
  | directoryImport specifier importer =>
    "Directory import '".toList ++ specifier ++ "' is not supported".toList
      ++ importedFrom importer
  | manifestMalformed path =>
    "Error parsing ".toList ++ path.text ++ ": ".toList ++ malformedJsonReason
  | config path fault =>
    "Failed to parse config at ".toList ++ path.text ++ ": ".toList ++ fault.message
  | unreadable path cause =>
    "Failed to read ".toList ++ path.text ++ ": ".toList ++ cause.reason
  | transform fault => fault.message
  | host fault => fault.message

/-- The failure without a text that a fallback put behind the specifier. -/
def dropSuffix (suffix : Text) : HookError → HookError
  | moduleNotFound specifier importer =>
    moduleNotFound ((Text.before? suffix specifier).getD specifier) importer
  | directoryImport specifier importer =>
    directoryImport ((Text.before? suffix specifier).getD specifier) importer
  | e => e

/-- The failure to read a file, where a missing one counts as a missing module. -/
def ofRead (path : Path) : ReadFailure → HookError
  | .missing => moduleNotFound path.text none
  | failure => unreadable path (.failed failure)

end HookError
end ModuleHooks
