import LiteralPack.CommandLine
import LiteralPack.Inspection
import LiteralPack.Terminal.Environment

/-!
The program as a function of its arguments, its terminal and the store it works on.
-/

namespace LiteralPack

/-- Lines that sum up a run. -/
def Report.lines (r : Report) : List String :=
  let verdict :=
    if r.isSuccess then ["✅ Build complete"]
    else s!"⚠️  Build complete with {r.failures.length} failed declaration(s)" ::
      r.failures.map fun f => s!"   ✗ {f.interface}: {f.cause.message}"
  [""] ++ verdict ++
    [s!"   {r.generated.length} types │ {r.totalFragments} fragments │ " ++
      s!"{byteCount r.totalBytes} │ {r.output.text}"]

namespace Program

/-- What the program leaves behind. -/
structure Result where
  exitCode : Nat
  out : List String := []
  err : List String := []
  deriving DecidableEq, Repr

def usage : List String :=
  ["Usage: litsplit generate --manifest <MANIFEST> --output <OUTPUT> " ++
      "[--target java|kotlin] [--container <NAME>] [--verify]",
   "       litsplit inspect <MANIFEST>"]

/-- A failure with what it is due to. -/
def failureLine (what : String) (e : RunError) : String :=
  "❌ " ++ ": ".intercalate (what :: e.message :: e.cause?.toList)

variable {m : Type → Type} [Monad m] [FileStore m]

def runGenerate (environment : Terminal.Environment) (options : Options) : m Result := do
  match ← (options.run : ExceptT RunError m Report).run with
  | .ok report =>
    return {
      exitCode := if report.isSuccess then 0 else 1
      err := if environment.errIsTerminal then report.lines else [] }
  | .error e =>
    return {
      exitCode := 1
      err := [failureLine s!"generation from {options.manifest.text} failed" e] }

def runInspect (environment : Terminal.Environment) (path : Path) : m Result := do
  match ← (inspect path : ExceptT RunError m _).run with
  | .ok (settings, plans) =>
    return {
      exitCode := if Inspection.isSuccess plans then 0 else 1
      out := Inspection.lines environment.screen path settings plans }
  | .error e => return { exitCode := 1, err := [failureLine s!"cannot inspect {path.text}" e] }

def run (environment : Terminal.Environment) (arguments : List String) : m Result :=
  match CommandLine.parse arguments with
  | .ok (.generate options) => runGenerate environment options
  | .ok (.inspect path) => runInspect environment path
  | .error .help => return { exitCode := 0, out := usage }
  | .error .usage => return { exitCode := 2, err := usage }

end Program

end LiteralPack
