import LiteralPack.Accessors
import LiteralPack.Cut

/-!
From the text of a file to its accessors: cut, write each fragment as a literal, assemble.
-/

namespace LiteralPack

structure Encoder where
  target : Target
  partPrefix : String := defaultPartPrefix
  limits : Limits := Limits.classFile

namespace Encoder

def encode (e : Encoder) (accessor : String) (t : Text) : Except TooWide Accessors :=
  (e.limits.cut t).map fun fragments =>
    Accessors.assemble e.partPrefix accessor (fragments.map (Fragment.literal e.target))

end Encoder

end LiteralPack
