import LiteralPack.Program

/-!
The program on the files of the system.
-/

namespace LiteralPack.Main

def faultOf : IO.Error → StoreFault
  | .noFileOrDirectory .. => .notFound
  | .inappropriateType _ 21 _ => .isDirectory
  | .inappropriateType _ 20 _ => .notDirectory
  | e => .other (toString e)

def attempt (action : IO α) : IO (Except StoreFault α) := do
  try
    return .ok (← action)
  catch e =>
    return .error (faultOf e)

instance : FileStore IO where
  read p := attempt (IO.FS.readBinFile p.text)
  makeDirs p := attempt (if p.text.isEmpty then pure () else IO.FS.createDirAll p.text)
  write p bytes := attempt (IO.FS.writeBinFile p.text bytes)

end LiteralPack.Main

open LiteralPack in
def main (arguments : List String) : IO UInt32 := do
  let environment : Terminal.Environment := {
    outIsTerminal := ← (← IO.getStdout).isTty
    errIsTerminal := ← (← IO.getStderr).isTty
    noColor := (← IO.getEnv "NO_COLOR").isSome
    theme := ← IO.getEnv "LITSPLIT_THEME"
    colorFgBg := ← IO.getEnv "COLORFGBG" }
  let result ← Program.run environment arguments
  for line in result.out do
    IO.println line
  for line in result.err do
    IO.eprintln line
  return result.exitCode.toUInt32
