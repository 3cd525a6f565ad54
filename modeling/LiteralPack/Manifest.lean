import LiteralPack.Accessors
import LiteralPack.Declaration
import LiteralPack.Limits
import LiteralPack.Target

/-!
Manifests: what to embed, and how the generated source is set up.
-/

namespace LiteralPack

structure Manifest where
  version : Nat
  target : Target := .java
  package : String := ""
  container : String := "Embedded"
  partPrefix : String := defaultPartPrefix
  caps : Caps := {}
  entries : List Entry
  deriving DecidableEq, Repr

/-- The only version that can be built. -/
def Manifest.supportedVersion : Nat := 1

end LiteralPack
