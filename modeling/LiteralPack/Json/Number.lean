import LiteralPack.Double
import LiteralPack.Json.Reader

/-!
JSON numbers. A number is an integer if it has no fraction and no exponent and fits a word of 64
bits; every other number is fractional, and must not be beyond the largest double.
-/

namespace LiteralPack.Json

inductive Number
  | natural (n : Nat)
  | negative (n : Nat)
  | fractional
  deriving DecidableEq, Repr

def wordMax : Nat := 0xFFFFFFFFFFFFFFFF

/-- Appends digits to a significand for as long as it fits a word. The second result is how many
digits were left out. -/
def significand (start : Nat) : Text → Nat × Nat
  | [] => (start, 0)
  | d :: digits =>
    let next := 10 * start + (d.toNat - 48)
    if wordMax < next then (start, digits.length + 1) else significand next digits

/-- Whether `sig · 10 ^ exponent`, computed in doubles, is beyond the largest of them. -/
def tooLarge (sig : Nat) (exponent : Int) : Bool :=
  sig ≠ 0 && 0 ≤ exponent &&
    (308 < exponent ||
      Double.overflows (Double.mul (Double.ofNat sig) (Double.ofNat (Nat.pow 10 exponent.toNat))))

/-- The digits that come next, of which there must be one. -/
def digits : Reader Text := fun rest =>
  match rest.span Char.isDigit with
  | ([], []) => failAt .ended []
  | ([], rest) => failAt .malformed rest
  | (digits, rest) => .ok (digits, rest)

/-- An integer part has no leading zero. -/
def integerDigits : Reader Text := do
  let ds ← digits
  match ds with
  | '0' :: _ :: _ => fail .malformed
  | _ => return ds

def next? : Reader (Option Char) := fun rest => .ok (rest.head?, rest)

/-- Reads the sign of an exponent; true if the exponent is negative. -/
def exponentSign : Reader Bool := do
  match ← next? with
  | some '-' => advance; return true
  | some '+' => advance; return false
  | _ => return false

/-- The largest exponent. Beyond it, how much larger an exponent is makes no difference. -/
def exponentMax : Nat := 0x7FFFFFFF

/-- Reads what follows the letter of an exponent and adds it to `exponent`. -/
def exponentFrom (exponent : Int) : Reader Int := do
  let below ← exponentSign
  let value := (← digits).foldl (fun n d => min exponentMax (10 * n + (d.toNat - 48))) 0
  return if below then exponent - (value : Int) else exponent + (value : Int)

/-- Reads an exponent if there is one, and checks the size of the number. -/
def scaled (sig : Nat) (exponent : Int) : Reader Number := do
  let exponent ← match ← next? with
    | some 'e' | some 'E' => advance; exponentFrom exponent
    | _ => pure exponent
  if tooLarge sig exponent then fail .malformed else return .fractional

/-- The number that an integer part stands for on its own. -/
def whole (negative : Bool) (n : Nat) : Number :=
  if negative then if n = 0 ∨ 0x8000000000000000 < n then .fractional else .negative n
  else .natural n

/-- Reads a number whose sign has been read. -/
def unsigned (negative : Bool) : Reader Number := do
  let (sig, dropped) := significand 0 (← integerDigits)
  match ← next? with
  | some '.' =>
    advance
    let ds ← digits
    let (sig, lost) := significand sig ds
    scaled sig ((dropped : Int) - (ds.length - lost))
  | some 'e' | some 'E' => scaled sig dropped
  | _ => if dropped = 0 then return whole negative sig else scaled sig dropped

/-- Reads a number that starts with the character to come. -/
def number : Reader Number := do
  match ← next? with
  | some '-' => advance; unsigned true
  | _ => unsigned false

/-- Skips digits, of which there must be one. -/
def skipDigits (rest : Text) : Except ReadError Text :=
  match rest.span Char.isDigit with
  | ([], rest) => failAt .malformed rest
  | (_, rest) => .ok rest

def skipExponent (rest : Text) : Except ReadError Text :=
  match rest with
  | 'e' :: rest | 'E' :: rest =>
    match rest with
    | '+' :: rest | '-' :: rest => skipDigits rest
    | _ => skipDigits rest
  | _ => .ok rest

/-- Skips a number of any size. One that is cut short is malformed. -/
def skipNumber (rest : Text) : Except ReadError Text := do
  let rest := if rest.head? = some '-' then rest.drop 1 else rest
  let (ds, rest) := rest.span Char.isDigit
  match ds with
  | [] => failAt .malformed rest
  | '0' :: _ :: _ => failAt .malformed rest
  | _ =>
    match rest with
    | '.' :: rest => skipExponent (← skipDigits rest)
    | _ => skipExponent rest

end LiteralPack.Json
