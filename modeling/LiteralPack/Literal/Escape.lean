import LiteralPack.Hex
import LiteralPack.Target
import LiteralPack.Text
import LiteralPack.Utf16

/-!
Bodies of string literals. Printable ASCII stands for itself, a few characters have a letter of
their own, and everything else is written as its UTF-16 units, so a body is printable ASCII
whatever the text. Line ends always take their letter: a unit escape of one would be read as a
raw line end before the literal is scanned.
-/

namespace LiteralPack.Literal

/-- The delimiter on both sides of a body. -/
def quote : Char := '"'

/-- What follows the backslash for the characters that have an escape of their own. Kotlin has no
escape for a form feed, and there a bare dollar sign would open a template. -/
def letter? : Target → Char → Option Char
  | _, '"' => some '"'
  | _, '\\' => some '\\'
  | _, '\x08' => some 'b'
  | _, '\t' => some 't'
  | _, '\n' => some 'n'
  | _, '\r' => some 'r'
  | .java, '\x0c' => some 'f'
  | .kotlin, '$' => some '$'
  | _, _ => none

def unitEscape (u : Nat) : Text := '\\' :: 'u' :: Hex.four u

def escapeChar (target : Target) (c : Char) : Text :=
  match letter? target c with
  | some letter => ['\\', letter]
  | none => if ' ' ≤ c ∧ c ≤ '~' then [c] else (Utf16.units c).flatMap unitEscape

def escape (target : Target) (t : Text) : Text := t.flatMap (escapeChar target)

@[simp] theorem escape_nil (target : Target) : escape target [] = [] := rfl

@[simp] theorem escape_cons (target : Target) (c : Char) (t : Text) :
    escape target (c :: t) = escapeChar target c ++ escape target t := rfl

end LiteralPack.Literal
