import LiteralPack.Measure

/-!
A fragment is a numbered slice of a text, with its span in code points and in UTF-8 bytes.
`layOut` numbers a list of texts and lays them end to end.
-/

namespace LiteralPack

structure Fragment where
  index : Nat
  start : Nat
  stop : Nat
  byteStart : Nat
  byteStop : Nat
  text : Text
  deriving DecidableEq, Inhabited, Repr

namespace Fragment

def charLen (f : Fragment) : Nat := f.stop - f.start

def byteLen (f : Fragment) : Nat := f.byteStop - f.byteStart

def first (t : Text) : Fragment := ⟨0, 0, t.length, 0, t.utf8Size, t⟩

/-- The fragment that starts where `f` stops. -/
def next (f : Fragment) (t : Text) : Fragment :=
  ⟨f.index + 1, f.stop, f.stop + t.length, f.byteStop, f.byteStop + t.utf8Size, t⟩

/-- Puts a text behind the fragments laid so far, the last of which comes first. -/
def lay : List Fragment → Text → List Fragment
  | [], t => [first t]
  | f :: laid, t => f.next t :: f :: laid

def layOut (texts : List Text) : List Fragment := (texts.foldl lay []).reverse

@[simp] theorem lay_map_text (laid : List Fragment) (t : Text) :
    (lay laid t).map text = t :: laid.map text := by
  cases laid <;> rfl

theorem foldl_lay_map_text (texts : List Text) (laid : List Fragment) :
    (texts.foldl lay laid).map text = texts.reverse ++ laid.map text := by
  induction texts generalizing laid with
  | nil => rfl
  | cons t texts ih => simp [ih]

@[simp] theorem layOut_map_text (texts : List Text) : (layOut texts).map text = texts := by
  simp [layOut, List.map_reverse, foldl_lay_map_text]

@[simp] theorem layOut_length (texts : List Text) : (layOut texts).length = texts.length := by
  rw [← List.length_map text, layOut_map_text]

end Fragment

end LiteralPack
