import BundleBinding.Binding.Problem
import BundleBinding.Fault
import BundleBinding.FileTree
import BundleBinding.Java.Source

/-!
Writing generated classes to files.
-/

namespace BundleBinding.Java

/-- The paths that were written, and a diagnostic for each host whose file could not be. -/
structure Output where
  written : List String
  failures : List Diagnostic
  deriving Repr

namespace Output

def empty : Output :=
  ⟨[], []⟩

def add {m : Type → Type} [Monad m] (files : FileAccess m) (suffix directory : String)
    (output : Output) (spec : BindingSpec) : m Output := do
  let file := generate suffix spec
  let path := FilePath.push directory file.path
  if ← files.write path file.source then
    return { output with written := output.written ++ [path] }
  else
    let failure := (BindingProblem.unwritable spec.host Fault.elided).report spec.host none
    return { output with failures := output.failures ++ [failure] }

end Output

/-- Writes the binder class of each specification below a directory. A file that cannot be written
does not keep the others from being written. -/
def writeAll {m : Type → Type} [Monad m] (files : FileAccess m) (suffix directory : String)
    (specs : List BindingSpec) : m Output :=
  specs.foldlM (Output.add files suffix directory) Output.empty

end BundleBinding.Java
