import LiteralPack.Accessors
import LiteralPack.Limits
import LiteralPack.Verify.Bounds

/-!
Assertions on what the library makes for itself. A breach means a mistake in the library, never
in its input.
-/

namespace LiteralPack

inductive Breach
  | nothingToAssemble (accessor : String)
  | noFragments (total : Nat)
  | misnumbered (position index : Nat)
  | misplaced (position start cursor : Nat)
  | reversed (position : Nat)
  | tooLong (position charLen maxLength : Nat)
  | tooHeavy (position size maxBytes : Nat)
  | miscovered (cursor total : Nat)
  | notMaximal (position : Nat)
  | textLost
  | miscounted (accessor : String) (held cut : Nat)
  | wrongShape (accessor : String) (count : Nat)
  | outOfOrder (accessor : String) (position index : Nat)
  deriving DecidableEq, Repr

def Breach.message : Breach → String
  | .nothingToAssemble accessor =>
    s!"assemble: no fragments for accessor \x60{accessor}\x60; chunk must yield at least one"
  | .noFragments total =>
    s!"Contract violation: chunk returned no fragments for a text of {total} code points"
  | .misnumbered position index => s!"Contract violation: fragments[{position}].index is {index}"
  | .misplaced position start cursor =>
    s!"Contract violation: fragments[{position}] starts at {start} but previous ended at {cursor}"
  | .reversed _ => "attempt to subtract with overflow"
  | .tooLong position charLen maxLength =>
    s!"Contract violation: fragments[{position}] has {charLen} code points > max_length {maxLength}"
  | .tooHeavy position size maxBytes =>
    s!"Contract violation: fragments[{position}] has {size} bytes > max_bytes {maxBytes}"
  | .miscovered cursor total =>
    s!"Contract violation: fragments end at {cursor} but text has {total} code points"
  | .notMaximal position =>
    s!"Contract violation: fragments[{position}] could take one more code point"
  | .textLost => "Contract violation: fragments do not concatenate to the source text"
  | .miscounted accessor held cut =>
    s!"Contract violation: accessor '{accessor}' holds {held} fragments, chunk produced {cut}"
  | .wrongShape accessor count =>
    s!"Contract violation: accessor '{accessor}' with {count} fragment(s) has the wrong shape"
  | .outOfOrder accessor position index =>
    s!"Contract violation: accessor '{accessor}' part {position} carries fragment {index}"

namespace Audit

/-- Assembles literals, of which there must be some. -/
def assemble (partPrefix accessor : String) (literals : List Literal) : Except Breach Accessors :=
  if literals.isEmpty then .error (.nothingToAssemble accessor)
  else .ok (Accessors.assemble partPrefix accessor literals)

/-- Checks fragments one by one, from `position` on, the first of which should start at `cursor`.
The result is where the last of them stops. -/
def consecutive (limits : Limits) (position cursor : Nat) : List Fragment → Except Breach Nat
  | [] => .ok cursor
  | f :: rest =>
    if f.index ≠ position then .error (.misnumbered position f.index)
    else if f.start ≠ cursor then .error (.misplaced position f.start cursor)
    else if f.stop < f.start then .error (.reversed position)
    else if limits.maxLength < f.charLen then .error (.tooLong position f.charLen limits.maxLength)
    else if limits.maxBytes < limits.size f.text then
      .error (.tooHeavy position (limits.size f.text) limits.maxBytes)
    else consecutive limits (position + 1) f.stop rest

/-- Whether a fragment could have taken the first code point of the one behind it. -/
def couldGrow (limits : Limits) (f next : Fragment) : Bool :=
  match next.text with
  | [] => false
  | c :: _ => f.charLen ≠ limits.maxLength && limits.size f.text + limits.width c ≤ limits.maxBytes

def maximalFrom (limits : Limits) (position : Nat) : List Fragment → Except Breach Unit
  | f :: next :: rest =>
    if couldGrow limits f next then .error (.notMaximal position)
    else maximalFrom limits (position + 1) (next :: rest)
  | _ => .ok ()

def fragments (limits : Limits) (source : Text) (fs : List Fragment) : Except Breach Unit := do
  if fs.isEmpty then throw (.noFragments source.length)
  let cursor ← consecutive limits 0 0 fs
  if cursor ≠ source.length then throw (.miscovered cursor source.length)
  maximalFrom limits 0 fs
  if (fs.map Fragment.text).flatten ≠ source then throw .textLost

def inOrderFrom (accessor : String) (position : Nat) : List Literal → Except Breach Unit
  | [] => .ok ()
  | literal :: rest =>
    if literal.index ≠ position then .error (.outOfOrder accessor position literal.index)
    else inOrderFrom accessor (position + 1) rest

/-- Checks that a set has the shape that `count` fragments call for. -/
def accessors (count : Nat) (set : Accessors) : Except Breach Unit := do
  if set.count ≠ count then throw (.miscounted set.name set.count count)
  if set.isChunked ≠ decide (1 < count) then throw (.wrongShape set.name count)
  inOrderFrom set.name 0 set.literals

end Audit

end LiteralPack
