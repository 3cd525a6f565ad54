import LiteralPack.Fragment
import LiteralPack.Literal.Escape

/-!
A literal is a fragment written for a target: its body, under the fragment's number and with the
sizes of the text it stands for.
-/

namespace LiteralPack

structure Literal where
  index : Nat
  body : Text
  charLen : Nat
  byteLen : Nat
  deriving DecidableEq, Inhabited, Repr

def Fragment.literal (target : Target) (f : Fragment) : Literal :=
  ⟨f.index, Literal.escape target f.text, f.charLen, f.byteLen⟩

end LiteralPack
