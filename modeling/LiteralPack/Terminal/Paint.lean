/-!
Colors of terminal output. They are chosen to go with a dark or a light background, and written as
escape sequences if they are written at all.
-/

namespace LiteralPack.Terminal

inductive Theme
  | dark
  | light
  deriving DecidableEq, Inhabited, Repr

inductive Color
  | red
  | green
  | yellow
  | blue
  | cyan
  | gray
  deriving DecidableEq, Repr

/-- What is known of the terminal that is written to. -/
structure Screen where
  colored : Bool := false
  theme : Theme := .dark
  deriving DecidableEq, Inhabited, Repr

/-- Red, green and blue parts of a color. -/
def Theme.rgb : Theme → Color → Nat × Nat × Nat
  | .dark, .red => (224, 108, 117)
  | .dark, .green => (152, 195, 121)
  | .dark, .yellow => (229, 192, 123)
  | .dark, .blue => (97, 175, 239)
  | .dark, .cyan => (86, 182, 194)
  | .dark, .gray => (92, 99, 112)
  | .light, .red => (228, 86, 73)
  | .light, .green => (80, 161, 79)
  | .light, .yellow => (193, 132, 1)
  | .light, .blue => (64, 120, 242)
  | .light, .cyan => (1, 132, 188)
  | .light, .gray => (160, 161, 167)

def bold : String := "\x1b[1m"

def plain : String := "\x1b[0m"

/-- The sequence that turns a color on. -/
def Theme.turnOn (theme : Theme) (color : Color) : String :=
  let (red, green, blue) := theme.rgb color
  s!"\x1b[38;2;{red};{green};{blue}m"

namespace Screen

def paint (s : Screen) (color : Color) (t : String) : String :=
  if s.colored then s.theme.turnOn color ++ t ++ plain else t

def paintBold (s : Screen) (color : Color) (t : String) : String :=
  if s.colored then bold ++ s.paint color t else t

@[simp] theorem paint_uncolored (theme : Theme) (color : Color) (t : String) :
    paint ⟨false, theme⟩ color t = t := rfl

@[simp] theorem paintBold_uncolored (theme : Theme) (color : Color) (t : String) :
    paintBold ⟨false, theme⟩ color t = t := rfl

end Screen

end LiteralPack.Terminal
