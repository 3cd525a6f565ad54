import LiteralPack.Limits
import LiteralPack.Violation

/-!
Checks on the texts of consecutive fragments: each is within the limits, none could have taken
the next code point, and together they are the text they came from.
-/

namespace LiteralPack.Verify

def bounds (limits : Limits) (index : Nat) (t : Text) : Except Violation Unit :=
  if limits.maxLength < t.length then .error (.tooLong index t.length limits.maxLength)
  else if limits.maxBytes < limits.size t then
    .error (.tooHeavy index (limits.size t) limits.maxBytes)
  else .ok ()

/-- A text has room for a code point if both caps still hold with it. -/
def hasRoom (limits : Limits) (t : Text) (c : Char) : Bool :=
  t.length < limits.maxLength && limits.size t + limits.width c ≤ limits.maxBytes

/-- Whether a text could have taken the first code point of the text that follows it. -/
def couldGrow (limits : Limits) (t : Text) : Text → Bool
  | [] => false
  | c :: _ => hasRoom limits t c

def maximalFrom (limits : Limits) (index : Nat) : List Text → Except Violation Unit
  | t :: next :: rest =>
    if couldGrow limits t next then .error (.notMaximal index)
    else maximalFrom limits (index + 1) (next :: rest)
  | _ => .ok ()

def maximal (limits : Limits) (texts : List Text) : Except Violation Unit :=
  maximalFrom limits 0 texts

/-- The length of the longest common beginning of two texts, on top of `offset`, unless they are
equal. -/
def differenceFrom (offset : Nat) : Text → Text → Option Nat
  | [], [] => none
  | a :: s, b :: t => if a = b then differenceFrom (offset + 1) s t else some offset
  | _, _ => some offset

/-- Where two texts first differ. -/
def difference? (s t : Text) : Option Nat := differenceFrom 0 s t

def sameText (rebuilt source : Text) : Except Violation Unit :=
  match difference? rebuilt source with
  | some offset => .error (.differs offset)
  | none => .ok ()

theorem differenceFrom_eq_none_iff (offset : Nat) (s t : Text) :
    differenceFrom offset s t = none ↔ s = t := by
  induction s generalizing offset t with
  | nil => cases t <;> simp [differenceFrom]
  | cons a s ih =>
    cases t with
    | nil => simp [differenceFrom]
    | cons b t =>
      simp only [differenceFrom, List.cons.injEq]
      split <;> simp_all

@[simp] theorem sameText_eq_ok_iff (s t : Text) : sameText s t = .ok () ↔ s = t := by
  rw [← differenceFrom_eq_none_iff 0 s t]
  unfold sameText difference?
  split <;> simp_all

@[simp] theorem bounds_eq_ok_iff (limits : Limits) (index : Nat) (t : Text) :
    bounds limits index t = .ok () ↔
      t.length ≤ limits.maxLength ∧ limits.size t ≤ limits.maxBytes := by
  unfold bounds
  split
  · simp; omega
  · split
    · simp; omega
    · simp; omega

end LiteralPack.Verify
