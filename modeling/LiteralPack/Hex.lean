/-!
Hexadecimal digits. Numbers are written in capitals; either case is read.
-/

namespace LiteralPack.Hex

def digit (n : Nat) : Char := if n < 10 then Char.ofNat (48 + n) else Char.ofNat (55 + n)

/-- The last four digits of a number. -/
def four (n : Nat) : List Char :=
  [digit (n / 4096 % 16), digit (n / 256 % 16), digit (n / 16 % 16), digit (n % 16)]

/-- All digits of a number, and at least four. -/
def label (n : Nat) : String :=
  String.ofList
    (if n < 0x10000 then four n
      else (Nat.toDigits 16 (n / 0x10000)).map Char.toUpper ++ four n)

def value? (c : Char) : Option Nat :=
  if '0' ≤ c ∧ c ≤ '9' then some (c.toNat - 48)
  else if 'A' ≤ c ∧ c ≤ 'F' then some (c.toNat - 55)
  else if 'a' ≤ c ∧ c ≤ 'f' then some (c.toNat - 87)
  else none

def readFour? (a b c d : Char) : Option Nat := do
  return 4096 * (← value? a) + 256 * (← value? b) + 16 * (← value? c) + (← value? d)

theorem value?_digit : ∀ n < 16, value? (digit n) = some n := by decide

theorem readFour?_four (n : Nat) (h : n < 0x10000) :
    readFour? (digit (n / 4096 % 16)) (digit (n / 256 % 16)) (digit (n / 16 % 16))
      (digit (n % 16)) = some n := by
  simp only [readFour?, value?_digit _ (Nat.mod_lt _ (by decide)), Option.pure_def,
    Option.bind_eq_bind, Option.bind_some]
  congr 1
  omega

end LiteralPack.Hex
