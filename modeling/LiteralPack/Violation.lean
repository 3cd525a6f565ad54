import LiteralPack.Literal.Decode

/-!
What can be wrong with a list of fragments or a set of accessors. Positions count from zero and
offsets count code points.
-/

namespace LiteralPack

inductive Violation
  | noFragments
  | notContiguous (index expected actual : Nat)
  | tooLong (index charLen maxLength : Nat)
  | tooHeavy (index byteLen maxBytes : Nat)
  | misnumbered (position index : Nat)
  | miscovered (covered total : Nat)
  | notMaximal (index : Nat)
  | differs (offset : Nat)
  | wrongShape (fragments : Nat) (chunked : Bool)
  | duplicateName (name : String)
  | undecodable (index : Nat) (cause : Literal.DecodeError)
  deriving DecidableEq, Repr

def Violation.message : Violation → String
  | .noFragments => "fragment sequence is empty"
  | .notContiguous index expected actual =>
    s!"fragment {index} starts at {actual} but previous fragment ended at {expected}"
  | .tooLong index charLen maxLength =>
    s!"fragment {index} has {charLen} code points > max_length {maxLength}"
  | .tooHeavy index byteLen maxBytes =>
    s!"fragment {index} has {byteLen} bytes > max_bytes {maxBytes}"
  | .misnumbered position index => s!"fragment at position {position} has index {index}"
  | .miscovered covered total => s!"fragments cover {covered} code points but text has {total}"
  | .notMaximal index => s!"fragment {index} could be extended by one code point"
  | .differs offset => s!"reassembled text differs at code point {offset}"
  | .wrongShape fragments true => s!"{fragments} fragment(s) emitted as a chunked accessor"
  | .wrongShape fragments false => s!"{fragments} fragment(s) emitted as a direct accessor"
  | .duplicateName name => s!"accessor name '{name}' is used twice"
  | .undecodable index cause => s!"literal of fragment {index} does not decode: {cause.message}"

end LiteralPack
