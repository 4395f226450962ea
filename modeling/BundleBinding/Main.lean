import BundleBinding.CommandLine.Outcome

/-!
The command line program.
-/

namespace BundleBinding

/-- The path of the directory that holds a file. -/
def FilePath.parent (path : String) : String :=
  "/".intercalate (((split path.toList).dropLast).map String.ofList)

def readFault : IO.Error → ReadFault
  | .inappropriateType .. => .isADirectory
  | _ => .missing

def machineFiles : FileAccess IO where
  read path := do
    try
      return .ok (← IO.FS.readFile path)
    catch error =>
      return .error (readFault error)
  write path text := do
    try
      let parent := FilePath.parent path
      if !parent.isEmpty then IO.FS.createDirAll parent
      IO.FS.writeFile path text
      return true
    catch _ =>
      return false

end BundleBinding

def main (arguments : List String) : IO UInt32 := do
  let debug ← IO.getEnv "BUNDLEWIRE_DEBUG"
  let request := BundleBinding.CommandLine.Request.ofArguments arguments
  let outcome ← BundleBinding.CommandLine.answer BundleBinding.machineFiles debug request
  IO.print outcome.output
  IO.eprint outcome.errors
  return outcome.exitCode
