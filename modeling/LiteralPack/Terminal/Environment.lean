import LiteralPack.Terminal.Paint
import LiteralPack.Text.Words

/-!
What a program finds out about its terminal. A named theme decides; without one, the background
that the terminal reports does.
-/

namespace LiteralPack.Terminal

structure Environment where
  outIsTerminal : Bool := false
  errIsTerminal : Bool := false
  noColor : Bool := false
  /-- The theme that was asked for. -/
  theme : Option String := none
  /-- The numbers of the foreground and background colors, with semicolons between them. -/
  colorFgBg : Option String := none
  deriving DecidableEq, Inhabited, Repr

/-- Small letters for capital ones. The Kelvin sign is a capital K. -/
def lowered (c : Char) : Char := if c = '\u212A' then 'k' else c.toLower

def Theme.ofName? (name : String) : Option Theme :=
  match String.ofList (name.toList.map lowered) with
  | "light" | "l" => some .light
  | "dark" | "d" => some .dark
  | _ => none

def digits? (t : Text) : Option Nat :=
  if !t.isEmpty && t.all Char.isDigit then some (t.foldl (fun n d => 10 * n + (d.toNat - 48)) 0)
  else none

/-- Reads the number of a color, which may have a plus sign and is at most 255. -/
def colorNumber? (t : Text) : Option Nat :=
  let digits := match t with
    | '+' :: rest => rest
    | _ => t
  (digits? digits).filter (· ≤ 255)

/-- Backgrounds from 7 on are light, but for the dark gray 8. -/
def Theme.ofBackground (number : Nat) : Theme := if 7 ≤ number && number ≠ 8 then .light else .dark

/-- The last of the numbers is the background. -/
def Theme.ofColorFgBg (colors : String) : Theme :=
  let fields := Text.segments (· == ';') colors.toList
  ((colorNumber? (fields.getLastD [])).map ofBackground).getD .dark

namespace Environment

def detectedTheme (e : Environment) : Theme :=
  match e.theme.bind Theme.ofName? with
  | some theme => theme
  | none => (e.colorFgBg.map Theme.ofColorFgBg).getD .dark

def screen (e : Environment) : Screen := ⟨e.outIsTerminal && !e.noColor, e.detectedTheme⟩

end Environment

end LiteralPack.Terminal
