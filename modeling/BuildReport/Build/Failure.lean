import BuildReport.FileSystem
import BuildReport.Glob.Reader

/-!
# Failures

A build fails where settings or files do not allow it, and where sources have errors. What the
tools report is no failure but a result.

- `Build.Failure`: the causes.
- `Build.Failure.message`: the words for a cause.
-/

namespace BuildReport

namespace Build

/-- Why a build was not carried out. -/
inductive Failure where
  | assemblerDisabled
  | linkerDisabled
  | missingRoot (root : Path)
  | createBuildDir (dir : Path) (fault : Fault)
  | readSource (source : Path) (fault : Fault)
  | invalidGlob (pattern : String) (error : Glob.Error)
  | compileErrors (files : Nat)
  deriving DecidableEq, Repr

/-- The words for a failure. -/
def Failure.message : Failure → String
  | .assemblerDisabled => "assembler is disabled in the configuration"
  | .linkerDisabled => "linker is disabled in the configuration"
  | .missingRoot root => "workspace root not found: " ++ root.text
  | .createBuildDir dir fault => "error creating build dir " ++ dir.text ++ ": " ++ fault.message
  | .readSource source fault => "failed to read source " ++ source.text ++ ": " ++ fault.message
  | .invalidGlob pattern error =>
    "invalid glob '" ++ pattern ++ "': error parsing glob '" ++ pattern ++ "': " ++ error.message
  | .compileErrors files =>
    "Build aborted: there are compile errors (" ++ toString files ++
      " file(s) reported diagnostics)"

end Build

end BuildReport
