/-!
Widths of terminal text. An escape sequence, which ends with an `m`, takes no room.
-/

namespace LiteralPack.Terminal

/-- Characters seen so far, and whether an escape sequence is open. -/
def seeing : Nat × Bool → Char → Nat × Bool
  | (seen, hidden), c =>
    if c = '\x1b' then (seen, true)
    else if hidden then (seen, c ≠ 'm')
    else (seen + 1, false)

def visibleWidth (t : String) : Nat := (t.toList.foldl seeing (0, false)).1

def repeated (c : Char) (count : Nat) : String := String.ofList (List.replicate count c)

/-- Blanks that bring a text to a visible width. -/
def padding (t : String) (width : Nat) : String := repeated ' ' (width - visibleWidth t)

def padLeft (t : String) (width : Nat) : String := padding t width ++ t

def padRight (t : String) (width : Nat) : String := t ++ padding t width

/-- The end of a path that is longer than `width`, behind three dots. -/
def truncatePath (path : String) (width : Nat) : String :=
  let cs := path.toList
  if cs.length ≤ width then path
  else "..." ++ String.ofList (cs.drop (cs.length - (width - 3)))

end LiteralPack.Terminal
