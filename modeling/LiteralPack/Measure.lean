import LiteralPack.Text

/-!
Two ways to measure the encoded size of a text: standard UTF-8, and the modified UTF-8 of class
files, where U+0000 takes two bytes and a supplementary code point takes two surrogates of three
bytes each. Either size of a concatenation is the sum of the sizes.
-/

namespace LiteralPack

inductive Measure
  | utf8
  | modifiedUtf8
  deriving DecidableEq, Inhabited, Repr

namespace Measure

def width : Measure → Char → Nat
  | .utf8, c => c.utf8Size
  | .modifiedUtf8, c =>
    if c = '\x00' then 2 else if 0xFFFF < c.toNat then 6 else c.utf8Size

def size (m : Measure) (t : Text) : Nat := t.foldr (fun c size => m.width c + size) 0

theorem width_pos (m : Measure) (c : Char) : 0 < m.width c := by
  have h := c.utf8Size_pos
  cases m with
  | utf8 => exact h
  | modifiedUtf8 =>
    simp only [width]
    split
    · omega
    · split <;> omega

@[simp] theorem size_nil (m : Measure) : m.size [] = 0 := rfl

@[simp] theorem size_cons (m : Measure) (c : Char) (t : Text) :
    m.size (c :: t) = m.width c + m.size t := rfl

@[simp] theorem size_append (m : Measure) (s t : Text) :
    m.size (s ++ t) = m.size s + m.size t := by
  induction s with
  | nil => simp
  | cons c s ih => simp [ih, Nat.add_assoc]

@[simp] theorem size_reverse (m : Measure) (t : Text) : m.size t.reverse = m.size t := by
  induction t with
  | nil => rfl
  | cons c t ih => simp [ih, Nat.add_comm]

end Measure

namespace Text

def utf8Size (t : Text) : Nat := Measure.utf8.size t

@[simp] theorem utf8Size_nil : utf8Size [] = 0 := rfl

@[simp] theorem utf8Size_append (s t : Text) : utf8Size (s ++ t) = utf8Size s + utf8Size t :=
  Measure.size_append .utf8 s t

end Text

end LiteralPack
