/-!
Why a declaration does not have the required shape.
-/

namespace LiteralPack

inductive ShapeError
  | invalidInterface (name : String)
  | unpackagedInterface (name : String)
  | malformedMember (signature : String)
  | hasParameters (member : String)
  | nonTextReturn (member returns : String)
  | invalidIdentifier (name : String)
  | emptyPath
  | duplicateType (name : String)
  | shadowsContainer (name : String)
  deriving DecidableEq, Repr

def ShapeError.message : ShapeError → String
  | .invalidInterface name => s!"\x60{name}\x60 is not a valid qualified interface name"
  | .unpackagedInterface name =>
    s!"interface \x60{name}\x60 has no package; the generated type would implement itself"
  | .malformedMember signature => s!"cannot parse member signature \x60{signature}\x60"
  | .hasParameters member =>
    s!"member \x60{member}\x60 takes parameters; only zero-argument members are supported"
  | .nonTextReturn member returns =>
    s!"member \x60{member}\x60 returns \x60{returns}\x60, expected String"
  | .invalidIdentifier name => s!"\x60{name}\x60 is not a valid identifier"
  | .emptyPath => "declaration has an empty path"
  | .duplicateType name => s!"generated type \x60{name}\x60 is declared more than once"
  | .shadowsContainer name => s!"generated type \x60{name}\x60 has the same name as its container"

end LiteralPack
