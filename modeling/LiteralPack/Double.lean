/-!
Double-precision arithmetic on non-negative fractions. A result keeps 53 significant bits, and a
value halfway between two neighbours goes to the even one. Only overflow is a matter for the
caller; no value here is small enough to lose bits at the lower end.
-/

namespace LiteralPack

/-- The integer nearest to `num / den`, a half going to the even one. -/
def roundHalfEven (num den : Nat) : Nat :=
  let q := num / den
  let r := num % den
  if 2 * r < den then q else if den < 2 * r then q + 1 else q + q % 2

/-- The integer nearest to `num / den`, a half going up. -/
def roundHalfUp (num den : Nat) : Nat := (2 * num + den) / (2 * den)

structure Fraction where
  num : Nat
  den : Nat
  deriving DecidableEq, Repr

namespace Fraction

def ofNat (n : Nat) : Fraction := ⟨n, 1⟩

def mul (a b : Fraction) : Fraction := ⟨a.num * b.num, a.den * b.den⟩

def div (a b : Fraction) : Fraction := ⟨a.num * b.den, a.den * b.num⟩

def lt (a b : Fraction) : Bool := a.num * b.den < b.num * a.den

/-- The nearest number of 53 significant bits. -/
def toDouble (a : Fraction) : Fraction :=
  if a.num = 0 then ⟨0, 1⟩
  else
    let shift := 54 + a.den.log2 - a.num.log2
    let scaled := a.num <<< shift
    let excess := (scaled / a.den).log2 - 52
    ⟨roundHalfEven scaled (a.den <<< excess) <<< excess, 1 <<< shift⟩

end Fraction

namespace Double

def ofNat (n : Nat) : Fraction := (Fraction.ofNat n).toDouble

def mul (a b : Fraction) : Fraction := (a.mul b).toDouble

def div (a b : Fraction) : Fraction := (a.div b).toDouble

/-- Whether a value is beyond the largest double. -/
def overflows (a : Fraction) : Bool := a.den <<< 1024 ≤ a.num

end Double

end LiteralPack
