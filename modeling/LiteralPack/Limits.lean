import LiteralPack.Measure

/-!
The two caps on one string constant: its length in code points and its encoded size. `Caps` are
numbers as a manifest gives them; `Limits` are caps that both leave room for something.
-/

namespace LiteralPack

structure Caps where
  maxLength : Nat := 65534
  maxBytes : Nat := 65535
  measure : Measure := .utf8
  deriving DecidableEq, Inhabited, Repr

structure Limits extends Caps where
  maxLength_pos : 0 < maxLength
  maxBytes_pos : 0 < maxBytes
  deriving DecidableEq

/-- One of the caps is zero. -/
structure LimitsError where
  maxLength : Nat
  maxBytes : Nat
  deriving DecidableEq, Repr

def LimitsError.message (e : LimitsError) : String :=
  s!"invalid limits: max_length {e.maxLength}, max_bytes {e.maxBytes} (both must be at least 1)"

def Caps.limits (caps : Caps) : Except LimitsError Limits :=
  if h : 0 < caps.maxLength ∧ 0 < caps.maxBytes then
    .ok { caps with maxLength_pos := h.1, maxBytes_pos := h.2 }
  else .error ⟨caps.maxLength, caps.maxBytes⟩

namespace Limits

/-- The ceilings of a class-file string constant, measured as UTF-8. -/
def classFile : Limits := { maxLength_pos := by decide, maxBytes_pos := by decide }

instance : Inhabited Limits := ⟨classFile⟩

def size (limits : Limits) (t : Text) : Nat := limits.measure.size t

def width (limits : Limits) (c : Char) : Nat := limits.measure.width c

/-- A text is admitted when it fits one constant. -/
def admits (limits : Limits) (t : Text) : Bool :=
  limits.size t ≤ limits.maxBytes && t.length ≤ limits.maxLength

theorem admits_iff (limits : Limits) (t : Text) :
    limits.admits t = true ↔ limits.size t ≤ limits.maxBytes ∧ t.length ≤ limits.maxLength := by
  simp [admits]

end Limits

end LiteralPack
