/-!
The languages that generated source is written in.
-/

namespace LiteralPack

inductive Target
  | java
  | kotlin
  deriving DecidableEq, Inhabited, Repr

namespace Target

def name : Target → String
  | .java => "java"
  | .kotlin => "kotlin"

/-- The extension of a source file. -/
def fileExtension : Target → String
  | .java => "java"
  | .kotlin => "kt"

end Target

end LiteralPack
