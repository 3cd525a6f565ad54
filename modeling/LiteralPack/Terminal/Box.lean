import LiteralPack.Terminal.Paint
import LiteralPack.Terminal.Width

/-!
Boxes of a fixed width around lines of terminal text.
-/

namespace LiteralPack.Terminal

/-- The width between the borders. -/
def boxWidth : Nat := 72

namespace Screen

def gray (s : Screen) (t : String) : String := s.paint .gray t

/-- A line of content between its borders. -/
def row (s : Screen) (content : String) : String :=
  s.gray "│" ++ padRight content boxWidth ++ s.gray "│"

def sectionTop (s : Screen) (label : String) : String :=
  let labelled := "─ " ++ s.paintBold .cyan label ++ " "
  s.gray "┌" ++ labelled ++ s.gray (repeated '─' (boxWidth - visibleWidth labelled) ++ "┐")

def sectionBottom (s : Screen) : String := s.gray ("└" ++ repeated '─' boxWidth ++ "┘")

/-- Three lines with a centered title. -/
def title (s : Screen) (t : String) : List String :=
  let label := s.paintBold .cyan t
  let room := boxWidth - visibleWidth label
  let left := room / 2
  let edge := repeated '═' boxWidth
  [s.paint .blue ("╔" ++ edge ++ "╗"),
   s.paint .blue "║" ++ repeated ' ' left ++ label ++ repeated ' ' (room - left) ++
     s.paint .blue "║",
   s.paint .blue ("╚" ++ edge ++ "╝")]

end Screen

end LiteralPack.Terminal
