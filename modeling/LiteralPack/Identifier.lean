import LiteralPack.Text.Words
import LiteralPack.Unicode.Alphabetic
import LiteralPack.Unicode.Numeric

/-!
Names that both targets accept as plain identifiers, and dotted names made of them. A dollar sign
is left out, since only Java allows it.
-/

namespace LiteralPack.Identifier

/-- The reserved words of Java and the hard keywords of Kotlin. -/
def reserved : List String :=
  ["_", "abstract", "as", "assert", "boolean", "break", "byte", "case", "catch", "char", "class",
   "const", "continue", "default", "do", "double", "else", "enum", "extends", "false", "final",
   "finally", "float", "for", "fun", "goto", "if", "implements", "import", "in", "instanceof",
   "int", "interface", "is", "long", "native", "new", "null", "object", "package", "private",
   "protected", "public", "return", "short", "static", "strictfp", "super", "switch",
   "synchronized", "this", "throw", "throws", "transient", "true", "try", "typealias", "typeof",
   "val", "var", "void", "volatile", "when", "while"]

def isStart (c : Char) : Bool := Unicode.isAlphabetic c || c == '_'

def isPart (c : Char) : Bool := Unicode.isAlphabetic c || Unicode.isNumeric c || c == '_'

def isReserved (t : Text) : Bool := reserved.any fun word => word.toList == t

def isIdentifier : Text → Bool
  | [] => false
  | c :: rest => isStart c && rest.all isPart && !isReserved (c :: rest)

def dotSegments (t : Text) : List Text := Text.segments (· == '.') t

/-- A qualified name is a sequence of identifiers with dots between them. -/
def isQualified (t : Text) : Bool := (dotSegments t).all isIdentifier

theorem isPart_of_isStart (c : Char) (h : isStart c = true) : isPart c = true := by
  simp only [isStart, isPart, Bool.or_eq_true] at h ⊢
  rcases h with h | h
  · exact Or.inl (Or.inl h)
  · exact Or.inr h

end LiteralPack.Identifier
