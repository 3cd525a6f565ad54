import LiteralPack.Accessors
import LiteralPack.Declaration

/-!
A container is one source file: a package, a name, and a type for each embedded file.
-/

namespace LiteralPack

/-- A declaration with the accessors that its type holds. -/
structure EmbeddedType where
  declaration : Declaration
  accessors : Accessors
  deriving DecidableEq, Repr

structure Container where
  package : String
  name : String
  types : List EmbeddedType
  deriving DecidableEq, Repr

namespace Container

def fileName (target : Target) (c : Container) : String := c.name ++ "." ++ target.fileExtension

/-- The package as a path. -/
def packagePath (c : Container) : Path :=
  Path.joinAll ((Identifier.dotSegments c.package.toList).filter (!·.isEmpty))

/-- Where the container lies below the directory `output`. -/
def path (target : Target) (output : Path) (c : Container) : Path :=
  (output.join c.packagePath).join ⟨c.fileName target⟩

end Container

end LiteralPack
