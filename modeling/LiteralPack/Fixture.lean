import LiteralPack.Container
import LiteralPack.Store

/-!
Small types to try the renderer on, whose literals are taken as they stand, and small projects to
try a run on.
-/

namespace LiteralPack.Fixture

def declaration (typeName accessor : String) (path : Path) : Declaration :=
  ⟨typeName, "fixtures." ++ typeName, accessor, path⟩

/-- A literal whose sizes are those of its own body. -/
def literal (index : Nat) (body : Text) : Literal := ⟨index, body, body.length, body.utf8Size⟩

def embed (typeName interface : String) (set : Accessors) : EmbeddedType :=
  ⟨{ declaration typeName set.name ⟨"input.txt"⟩ with interface }, set⟩

def direct (typeName interface accessor : String) (body : Text) : EmbeddedType :=
  embed typeName interface (.direct accessor (literal 0 body))

def chunked (typeName interface accessor : String) (bodies : List Text) : EmbeddedType :=
  let part (body : Text) (index : Nat) : Part :=
    ⟨partName defaultPartPrefix accessor index, literal index body⟩
  embed typeName interface
    (.chunked accessor (bodies.zipIdx.map fun (body, index) => part body index))

variable {m : Type → Type} [Monad m] [FileStore m]

/-- Writes a file, with the directories it lies in. -/
def storeFile (path : Path) (contents : String) : ExceptT StoreFault m Unit := do
  if let some directory := path.parent? then
    ExceptT.mk (FileStore.makeDirs directory)
  ExceptT.mk (FileStore.write path contents.toUTF8)

/-- Writes files below a directory, and a manifest last. The result is the path of the manifest. -/
def store (directory : Path) (manifest : String) (files : List (Path × String)) :
    ExceptT StoreFault m Path := do
  for (path, contents) in files do
    storeFile (directory.join path) contents
  let manifestPath := directory.join ⟨"manifest.json"⟩
  ExceptT.mk (FileStore.write manifestPath manifest.toUTF8)
  return manifestPath

end LiteralPack.Fixture
