import LiteralPack.Fragment
import LiteralPack.Verify.Bounds

/-!
Checking a list of fragments against a text: numbered in order, laid end to end, within the
limits, covering the text, equal to it when joined, and each as long as it can be. The first
check that fails is reported.
-/

namespace LiteralPack.Verify

/-- Checks fragments one by one, from `position` on, the first of which should start at `start`.
The result is where the last of them stops. -/
def consecutive (limits : Limits) (position start byteStart : Nat) :
    List Fragment → Except Violation Nat
  | [] => .ok start
  | f :: rest =>
    if f.index ≠ position then .error (.misnumbered position f.index)
    else if f.start ≠ start ∨ f.byteStart ≠ byteStart then
      .error (.notContiguous position start f.start)
    else
      match bounds limits position f.text with
      | .error violation => .error violation
      | .ok () => consecutive limits (position + 1) f.stop f.byteStop rest

def fragments (limits : Limits) (source : Text) (fs : List Fragment) : Except Violation Unit := do
  if fs.isEmpty then throw .noFragments
  let covered ← consecutive limits 0 0 0 fs
  if covered ≠ source.length then throw (.miscovered covered source.length)
  let texts := fs.map Fragment.text
  sameText texts.flatten source
  maximal limits texts

end LiteralPack.Verify
