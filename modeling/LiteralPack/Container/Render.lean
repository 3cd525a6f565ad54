import LiteralPack.Container

/-!
Containers as source text. In Java a container is a final class with a static nested class for
each type, in Kotlin an object with nested classes. A text is rendered line by line, each line
with its depth of indentation.
-/

namespace LiteralPack.Container

/-- The first line of every generated file. -/
def header : String := "// Generated by litsplit. Do not edit."

def line (depth : Nat) (t : Text) : Text := List.replicate (4 * depth) ' ' ++ t

def named (depth : Nat) (s : String) : Text := line depth s.toList

def blank : Text := []

/-- A line with a literal between quotes. -/
def quotedLine (depth : Nat) (before : String) (l : Literal) (behind : String) : Text :=
  line depth (before.toList ++ Literal.quote :: (l.body ++ Literal.quote :: behind.toList))

/-- The calls of the private accessors, joined in order. -/
def calls (parts : List Part) : String := " + ".intercalate (parts.map fun p => p.name ++ "()")

namespace Java

def returning (l : Literal) : Text := quotedLine 3 "return " l ";"

def part (p : Part) : List Text :=
  [named 2 s!"private String {p.name}() \x7b", returning p.literal, named 2 "\x7d", blank]

def accessor (name : String) (body : Text) : List Text :=
  [named 2 "@Override", named 2 s!"public String {name}() \x7b", body, named 2 "\x7d"]

def accessors : Accessors → List Text
  | .direct name l => accessor name (returning l)
  | .chunked name parts =>
    parts.flatMap part ++ accessor name (named 3 s!"return {calls parts};")

def typeOpening (d : Declaration) : Text :=
  named 1 s!"public static final class {d.typeName} implements {d.interface} \x7b"

def typeLines (t : EmbeddedType) : List Text :=
  typeOpening t.declaration :: accessors t.accessors ++ [named 1 "\x7d"]

def lines (c : Container) : List Text :=
  [named 0 header, blank]
    ++ (if c.package.isEmpty then [] else [named 0 s!"package {c.package};", blank])
    ++ [named 0 s!"public final class {c.name} \x7b", named 1 s!"private {c.name}() \x7b",
      named 1 "\x7d"]
    ++ c.types.flatMap (fun t => blank :: typeLines t)
    ++ [named 0 "\x7d"]

end Java

namespace Kotlin

def part (p : Part) : Text := quotedLine 2 s!"private fun {p.name}(): String = " p.literal ""

def accessors : Accessors → List Text
  | .direct name l => [quotedLine 2 s!"override fun {name}(): String = " l ""]
  | .chunked name parts =>
    parts.map part ++ [blank, named 2 s!"override fun {name}(): String = {calls parts}"]

def typeLines (t : EmbeddedType) : List Text :=
  named 1 s!"class {t.declaration.typeName} : {t.declaration.interface} \x7b"
    :: accessors t.accessors ++ [named 1 "\x7d"]

def lines (c : Container) : List Text :=
  [named 0 header, blank]
    ++ (if c.package.isEmpty then [] else [named 0 s!"package {c.package}", blank])
    ++ [named 0 s!"object {c.name} \x7b"]
    ++ ((c.types.map typeLines).intersperse [blank]).flatten
    ++ [named 0 "\x7d"]

end Kotlin

def lines : Target → Container → List Text
  | .java => Java.lines
  | .kotlin => Kotlin.lines

/-- The text of the source file. -/
def render (target : Target) (c : Container) : Text := (c.lines target).flatMap (· ++ ['\n'])

end LiteralPack.Container
