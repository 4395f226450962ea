import BundleBinding.Binding.Linking
import BundleBinding.CommandLine.Request
import BundleBinding.Config
import BundleBinding.Java.Output
import BundleBinding.Json.Printer
import BundleBinding.Json.Reader
import BundleBinding.Program.Text
import BundleBinding.Service.Binder

/-!
Running commands. Files are reached through `FileAccess`, so that the same commands run on a tree of
files as on the files of a machine.
-/

namespace BundleBinding.CommandLine

structure Outcome where
  exitCode : UInt32
  output : String
  errors : String
  deriving Repr, DecidableEq

inductive Failure where
  | fault (fault : Fault)
  | program (path : String) (fault : Fault)
  | argument (position : Nat) (text : String)
  deriving Repr

namespace Failure

/-- The message of a fault. A file that cannot be read gives its reason once more, as the cause. -/
def causes : Fault → List String
  | .unreadable reason => [(Fault.unreadable reason).message, reason]
  | other => [other.message]

def lines (causes : List String) (fault : Fault) : String :=
  "Error: " ++ ": ".intercalate causes ++ "\n  Fix: " ++ fault.suggestion ++ "\n"

/-- The error text. What is wrong with an argument is the last that is said. -/
def message : Failure → String
  | fault reason => lines (causes reason) reason
  | program path reason => lines (("loading program model " ++ path) :: causes reason) reason
  | argument position text =>
      "Error: argument #" ++ toString position ++ " is not valid JSON: " ++ text ++ ": " ++
        Fault.elided

end Failure

namespace Outcome

def success (output : String) : Outcome :=
  ⟨0, output, ""⟩

def failure (failure : Failure) : Outcome :=
  ⟨1, "", failure.message⟩

/-- The outcome of a command that has reported diagnostics before. -/
def after (diagnostics : List Diagnostic) (outcome : Outcome) : Outcome :=
  let reported := diagnostics.map fun diagnostic =>
    diagnostic.render ++ "\n  help: " ++ diagnostic.code.help ++ "\n"
  { outcome with errors := String.join reported ++ outcome.errors }

/-- Reports diagnostics, and fails if there are errors among them. -/
def unlessErrors (diagnostics : List Diagnostic) (outcome : Outcome) : Outcome :=
  let errors := errorCount diagnostics
  after diagnostics
    (if errors == 0 then outcome else failure (.fault (.resolutionFailed errors)))

def ofExcept (result : Except Failure Outcome) : Outcome :=
  match result with
  | .ok outcome => outcome
  | .error reason => failure reason

end Outcome

variable {m : Type → Type} [Monad m]

/-- The file that holds the settings unless another is given. -/
def configFile : String :=
  "bundlewire.toml"

/-- The settings: those of the given file, or of the default file if it is there. -/
def loadConfig (files : FileAccess m) (path : Option String) : m (Except Failure Config) := do
  let content ← files.read (path.getD configFile)
  return match path, content with
    | none, .error .missing => pure Config.standard
    | _, .error fault => throw (.fault (Config.unreadable (path.getD configFile) fault))
    | _, .ok text => (Config.ofText text).mapError .fault

def loadProgram (files : FileAccess m) (path : String) : m (Except Failure ProgramIndex) := do
  match ← files.read path with
  | .ok text => return (ProgramIndex.ofText text).mapError (.program path)
  | .error fault => return throw (.program path (.unreadable fault.message))

def summaryLine (spec : BindingSpec) : String :=
  let parent :=
    match spec.parent with
    | some parent => " extends " ++ parent.host
    | none => ""
  "  " ++ spec.host ++ parent ++ " (" ++ toString spec.fields.length ++ " field(s))\n"

def check (config : Config) (path : String) (index : ProgramIndex) : Outcome :=
  let resolution := index.model.resolve config.reservedNamespaces
  let output :=
    "✓ " ++ toString resolution.specs.size ++ " binding spec(s) resolved in '" ++ path ++ "'\n" ++
      String.join (resolution.specs.values.map summaryLine)
  Outcome.unlessErrors resolution.diagnostics (.success output)

def generate (files : FileAccess m) (config : Config) (directory : String) (index : ProgramIndex) :
    m Outcome := do
  let resolution := index.model.resolve config.reservedNamespaces
  if resolution.isSuccess then
    let output ←
      Java.writeAll files config.binderSuffix directory resolution.specs.values
    let listed := output.written.map fun path => "→ " ++ path ++ "\n"
    let text :=
      String.join listed ++ "✓ " ++ toString output.written.length ++ " binder(s) generated\n"
    return Outcome.after resolution.diagnostics
      (if output.failures.isEmpty then .success text
        else Outcome.unlessErrors (resolution.diagnostics ++ output.failures) (.success text))
  else
    return Outcome.unlessErrors resolution.diagnostics (.success "")

def readArguments (arguments : List String) : Except Failure (List Json) :=
  arguments.zipIdx.mapM fun (text, position) =>
    match Json.parse? text with
    | some value => pure value
    | none => throw (.argument position text)

def invoke (config : Config) (index : ProgramIndex) (service method : String)
    (arguments : List String) : Except Failure Outcome := do
  let values ← readArguments arguments
  let binder := Binder.build ⟨config.debug, config.validateEagerly, [], index.hierarchy⟩
  let interface ← (index.service service).mapError fun fault => .fault (.invalidProgram fault)
  let (created, cache) := binder.create Cache.empty interface
  let callable ← created.mapError Failure.fault
  let (invocation, _) := binder.callJson cache callable method values
  let bundle ← invocation.result.mapError Failure.fault
  return .success (bundle.toJson.renderIndented "" ++ "\n")

/-- Runs a command with the settings of a file. `debug` is the word for the debug mode in the
environment. -/
def run (files : FileAccess m) (debug config : Option String) (command : Command) : m Outcome := do
  match ← loadConfig files config with
  | .error reason => return .failure reason
  | .ok config =>
      let config := config.withEnvironment debug
      let path :=
        match command with
        | .check path => path
        | .generate path _ => path
        | .invoke path _ _ _ => path
      match ← loadProgram files path with
      | .error reason => return .failure reason
      | .ok index =>
          match command with
          | .check path => return check config path index
          | .generate _ directory => generate files config directory index
          | .invoke _ service method arguments =>
              return .ofExcept (invoke config index service method arguments)

def versionLine : String :=
  "bundlewire 0.1.0\n"

def usage : String :=
  "Usage: bundlewire [--config PATH] [-q] check PROGRAM\n" ++
  "       bundlewire [--config PATH] [-q] generate PROGRAM [-o DIRECTORY]\n" ++
  "       bundlewire [--config PATH] [-q] invoke PROGRAM SERVICE METHOD [ARGUMENTS]\n"

def answer (files : FileAccess m) (debug : Option String) (request : Request) : m Outcome :=
  match request with
  | .run config command => run files debug config command
  | .version => pure (.success versionLine)
  | .help => pure (.success usage)
  | .misuse => pure ⟨2, "", usage⟩

end BundleBinding.CommandLine
