import LiteralPack.Path
import Std.Data.TreeMap

/-!
Loading the text of a declared file.
-/

namespace LiteralPack

inductive LoadError
  | notFound (path : Path)
  | unreadable (path : Path) (reason : String)
  | notUtf8 (path : Path)
  deriving DecidableEq, Repr

def LoadError.message : LoadError → String
  | .notFound path => s!"file not found: {path.text}"
  | .unreadable path reason => s!"failed to read {path.text}: {reason}"
  | .notUtf8 path => s!"{path.text} is not valid UTF-8"

abbrev Loader := Path → Except LoadError Text

/-- Files in memory, each under the key of its path. -/
abbrev FileTable := Std.TreeMap (List Text) Text

namespace FileTable

/-- Of two files with one key the later one counts. -/
def ofFiles (files : List (Path × Text)) : FileTable :=
  files.foldl (fun table (path, t) => table.insert path.key t) ∅

def load (table : FileTable) : Loader := fun path =>
  match table[path.key]? with
  | some t => .ok t
  | none => .error (.notFound path)

end FileTable

end LiteralPack
