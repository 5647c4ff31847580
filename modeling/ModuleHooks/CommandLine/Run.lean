import ModuleHooks.CommandLine.Help
import ModuleHooks.CommandLine.Report
import ModuleHooks.Discovery
import ModuleHooks.Engine.Loading
import ModuleHooks.Engine.Resolution
import ModuleHooks.Host.FileHost

/-!
Running a call of the program over a file system: the settings are discovered, an engine is built
with the transformer that compiles nothing, and the answer of the engine is printed.
-/
namespace ModuleHooks.CommandLine

/-- How a run ends. -/
inductive Outcome
  | printed (text : Text)
  | failed (e : HookError) (asJson : Bool)
  | refused (f : UsageFault)
deriving DecidableEq, Repr

namespace Outcome

/-- The exit code. -/
def exitCode : Outcome → Nat
  | printed _ => 0
  | failed .. => 1
  | refused _ => 2

/-- What goes to the output. Failures are told there only to machines. -/
def output : Outcome → Text
  | printed text => text
  | failed e asJson => if asJson then Report.failureLine e.code e.message else []
  | refused _ => []

/-- What goes to people when a run does not succeed. -/
def complaint : Outcome → Text
  | failed e false => "Error: ".toList ++ e.code ++ "\n".toList ++ e.message ++ "\n".toList
  | refused f => "error: ".toList ++ f.message ++ "\n".toList
  | printed _ | failed _ true => []

end Outcome

def defaultImporter : Text := "index.ts".toList

variable (fs : FileSystem) (environment : Discovery.Environment) (workingDirectory : Path)

def host : Host := FileHost.host fs workingDirectory

/-- The output of a command, seen from a directory. -/
def perform (directory : Path) (asJson : Bool) (command : Command) : Hooked Caches Text := do
  if command = .version then return Report.version asJson
  else
    let config := Discovery.settings fs environment directory
    let engine ← Engine.create fs config Transformer.passthrough
    match command with
    | .version => return Report.version asJson
    | .resolve specifier importer kind conditions =>
      let importer := directory.child (importer.getD defaultImporter)
      let fresh := ResolveContext.fresh (some importer) kind
      let ctx := if conditions.isEmpty then fresh else { fresh with conditions }
      let m ← engine.resolve fs (host fs workingDirectory) specifier ctx
      return Report.resolved asJson specifier importer kind m
    | .load path kind =>
      let id := ModuleId.ofPath (fs.canonical (directory.child path))
      let result ← engine.load fs (host fs workingDirectory) id { kind }
      return Report.loaded asJson id kind result
    | .aliases => return Report.aliases asJson engine
    | .config =>
      return Report.config Discovery.Environment.rootVariable
        Discovery.Environment.tsconfigVariable asJson engine

/-- The directory that a call is seen from: the one it asks for, taken as it is written where
nothing is there, or else the working directory. -/
def Invocation.startDirectory (i : Invocation) : Path :=
  let asked := (i.directory.map Path.mk).getD workingDirectory
  let absolute := workingDirectory.join asked
  if fs.hasPath absolute then fs.canonical absolute else asked

/-- The outcome of a call. -/
def Invocation.run (i : Invocation) : Outcome :=
  let directory := i.startDirectory fs workingDirectory
  match ((perform fs environment workingDirectory directory i.asJson i.command).outcome {}).1 with
  | .ok text => .printed text
  | .error e => .failed e i.asJson

/-- The outcome of running the program with arguments. -/
def run (arguments : List Text) : Outcome :=
  match Invocation.parse arguments with
  | .ok i => i.run fs environment workingDirectory
  | .error (.help topic) => .printed (Help.text topic)
  | .error .version => .printed (Report.version false)
  | .error (.fault f) => .refused f

end ModuleHooks.CommandLine
