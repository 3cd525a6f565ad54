import LiteralPack.Double

/-!
Byte counts for people to read: whole bytes below a kilobyte, and above it one decimal.
-/

namespace LiteralPack

/-- One decimal of a count of units of `unit` bytes. The count is taken as a double, and a decimal
halfway between two neighbours goes to the even one. -/
def oneDecimal (bytes unit : Nat) : String :=
  let count := Double.ofNat bytes
  let tenths := roundHalfEven (10 * count.num) (count.den * unit)
  s!"{tenths / 10}.{tenths % 10}"

def byteCount (bytes : Nat) : String :=
  if 1024 * 1024 ≤ bytes then s!"{oneDecimal bytes (1024 * 1024)} MB"
  else if 1024 ≤ bytes then s!"{oneDecimal bytes 1024} KB"
  else s!"{bytes} B"

end LiteralPack
