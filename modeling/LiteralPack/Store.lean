import LiteralPack.Path

/-!
Where files are kept. A store reads the bytes of a file, makes directories, and writes files; each
operation reports why it failed.
-/

namespace LiteralPack

inductive StoreFault
  | notFound
  | isDirectory
  | notDirectory
  | exists
  | nameTooLong
  | invalidName
  | other (reason : String)
  deriving DecidableEq, Repr

def StoreFault.message : StoreFault → String
  | .notFound => "No such file or directory (os error 2)"
  | .isDirectory => "Is a directory (os error 21)"
  | .notDirectory => "Not a directory (os error 20)"
  | .exists => "File exists (os error 17)"
  | .nameTooLong => "File name too long (os error 36)"
  | .invalidName => "file name contained an unexpected NUL byte"
  | .other reason => reason

class FileStore (m : Type → Type) where
  read : Path → m (Except StoreFault ByteArray)
  /-- Makes a directory and those it lies in, as far as they are missing. -/
  makeDirs : Path → m (Except StoreFault Unit)
  /-- Writes a file in place of what it held before. -/
  write : Path → ByteArray → m (Except StoreFault Unit)

end LiteralPack
