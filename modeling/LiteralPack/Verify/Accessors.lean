import LiteralPack.Accessors
import LiteralPack.Verify.Bounds
import Std.Data.HashSet

/-!
Checking a set of accessors against the text it should return. Every literal is decoded; the
decoded texts must be within the limits, join to the text, and each be as long as it can be.
-/

namespace LiteralPack.Verify

/-- What a checked set holds. Bytes are counted under the measure of the limits. -/
structure Report where
  fragments : Nat
  chars : Nat
  bytes : Nat
  largestFragmentBytes : Nat
  chunked : Bool
  deriving DecidableEq, Repr

/-- The first name that was seen before. -/
def repeatedName? (seen : Std.HashSet String) : List String → Option String
  | [] => none
  | name :: rest => if seen.contains name then some name else repeatedName? (seen.insert name) rest

/-- Decodes literals one by one, from `position` on, behind the texts decoded so far, the last of
which comes first. -/
def decodedFrom (limits : Limits) (position : Nat) (decoded : List Text) :
    List Literal → Except Violation (List Text)
  | [] => .ok decoded.reverse
  | literal :: rest =>
    if literal.index ≠ position then .error (.misnumbered position literal.index)
    else
      match Literal.decode literal.body with
      | .error cause => .error (.undecodable position cause)
      | .ok t =>
        match bounds limits position t with
        | .error violation => .error violation
        | .ok () => decodedFrom limits (position + 1) (t :: decoded) rest

def accessors (limits : Limits) (source : Text) (set : Accessors) : Except Violation Report := do
  let literals := set.literals
  if literals.isEmpty then throw .noFragments
  if set.isChunked ≠ decide (1 < literals.length) then
    throw (.wrongShape literals.length set.isChunked)
  if let some name := repeatedName? ∅ (set.name :: set.assembly) then throw (.duplicateName name)
  let texts ← decodedFrom limits 0 [] literals
  sameText texts.flatten source
  maximal limits texts
  return {
    fragments := texts.length
    chars := source.length
    bytes := limits.size source
    largestFragmentBytes := (texts.map limits.size).foldl max 0
    chunked := set.isChunked }

end LiteralPack.Verify
