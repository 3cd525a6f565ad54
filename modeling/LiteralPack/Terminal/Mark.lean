import LiteralPack.Double
import LiteralPack.Terminal.Paint
import LiteralPack.Terminal.Width

/-!
Badges, check marks and gauges.
-/

namespace LiteralPack.Terminal

/-- How much of a capacity is used, at most all of it. -/
def usedShare (used capacity : Nat) : Fraction :=
  if capacity = 0 then Fraction.ofNat 0
  else
    let share := Double.div (Double.ofNat used) (Double.ofNat capacity)
    if (Fraction.ofNat 1).lt share then Fraction.ofNat 1 else share

/-- The share above which a gauge changes its color. -/
def nearlyFull : Fraction := Fraction.toDouble ⟨95, 100⟩

namespace Screen

def badge (s : Screen) (chunked : Bool) : String :=
  if chunked then s.paintBold .yellow "[CHUNKED]" else s.paint .green "[DIRECT]"

def mark (s : Screen) (ok : Bool) : String :=
  if ok then s.paintBold .green "✓" else s.paintBold .red "✗"

/-- A bar of `width` cells and a percentage. A half cell is filled; half a percent goes to the even
neighbour. -/
def gauge (s : Screen) (used capacity width : Nat) : String :=
  let share := usedShare used capacity
  let cells := Double.mul share (Double.ofNat width)
  let filled := roundHalfUp cells.num cells.den
  let percent := Double.mul share (Double.ofNat 100)
  let number := toString (roundHalfEven percent.num percent.den)
  let color := if nearlyFull.lt share then Color.yellow else Color.blue
  s.paint color (repeated '█' filled ++ repeated '░' (width - filled)) ++ " " ++
    s.paint .gray (padLeft number 3 ++ "%")

end Screen

end LiteralPack.Terminal
