import LiteralPack.Fragment
import LiteralPack.Hex
import LiteralPack.Limits

/-!
Cutting a text into fragments under two caps. Each step proposes as many code points as could
fit, then gives code points back from the end until the encoded size is within its cap, so no
code point is ever split and each fragment is as long as it can be. The cut fails only at a code
point wider than the size cap. A piece that was cut off is a beginning of the rest that the limits
admit.
-/

namespace LiteralPack

/-- A code point that no fragment can hold. -/
structure TooWide where
  offset : Nat
  codePoint : Char
  width : Nat
  maxBytes : Nat
  deriving DecidableEq, Repr

def TooWide.message (e : TooWide) : String :=
  s!"code point U+{Hex.label e.codePoint.toNat} at offset {e.offset} " ++
    s!"needs {e.width} bytes but max_bytes is {e.maxBytes}"

namespace Limits

/-- No code point takes less than one byte, so either cap bounds the length of a proposal. -/
def proposal (limits : Limits) (rest : Text) : Text :=
  rest.take (min limits.maxLength limits.maxBytes)

/-- Gives back code points until the size is within its cap. The text held comes last code point
first, and `size` is its size. -/
def retract (limits : Limits) : Text → Nat → Text
  | [], _ => []
  | c :: held, size =>
    if size ≤ limits.maxBytes then c :: held else limits.retract held (size - limits.width c)

theorem retract_suffix (limits : Limits) (held : Text) (size : Nat) :
    limits.retract held size <:+ held := by
  induction held generalizing size with
  | nil => exact List.suffix_refl []
  | cons c held ih =>
    unfold retract
    split
    · exact List.suffix_refl _
    · exact (ih _).trans (List.suffix_cons c held)

theorem size_retract_le (limits : Limits) (held : Text) :
    limits.size (limits.retract held (limits.size held)) ≤ limits.maxBytes := by
  induction held with
  | nil => exact Nat.zero_le _
  | cons c held ih =>
    unfold retract
    split
    · assumption
    · have h : limits.size (c :: held) - limits.width c = limits.size held :=
        Nat.add_sub_cancel_left _ _
      rwa [h]

/-- The longest beginning of `rest` that fits one fragment. -/
def longest (limits : Limits) (rest : Text) : Text :=
  (limits.retract (limits.proposal rest).reverse (limits.size (limits.proposal rest))).reverse

theorem longest_prefix (limits : Limits) (rest : Text) : limits.longest rest <+: rest := by
  have h := limits.retract_suffix (limits.proposal rest).reverse
    (limits.size (limits.proposal rest))
  have hr : limits.longest rest <+: limits.proposal rest := by
    simpa [longest] using List.reverse_prefix.2 h
  exact hr.trans (List.take_prefix _ rest)

theorem admits_longest (limits : Limits) (rest : Text) :
    limits.admits (limits.longest rest) = true := by
  rw [admits_iff]
  have hs := limits.size_retract_le (limits.proposal rest).reverse
  have hl := (limits.retract_suffix (limits.proposal rest).reverse
    (limits.size (limits.proposal rest))).length_le
  simp only [size, Measure.size_reverse] at hs hl
  simp only [longest, size, Measure.size_reverse, List.length_reverse]
  refine ⟨hs, Nat.le_trans hl ?_⟩
  simp only [List.length_reverse, proposal, List.length_take]
  omega

/-- Cuts off the longest fitting piece until nothing remains. `offset` is the length of what has
been cut off, and `cut` holds it, last piece first. -/
def pieces (limits : Limits) (offset : Nat) (cut : List Text) : Text → Except TooWide (List Text)
  | [] => .ok cut.reverse
  | c :: rest =>
    match limits.longest (c :: rest) with
    | [] => .error ⟨offset, c, limits.width c, limits.maxBytes⟩
    | d :: piece =>
      limits.pieces (offset + (piece.length + 1)) ((d :: piece) :: cut) (rest.drop piece.length)
termination_by rest => rest.length
decreasing_by simp only [List.length_drop, List.length_cons]; omega

/-- The fewest fragments that hold a text. The empty text is one empty fragment. -/
def cut (limits : Limits) (t : Text) : Except TooWide (List Fragment) :=
  if t.isEmpty then .ok (Fragment.layOut [[]])
  else (limits.pieces 0 [] t).map Fragment.layOut

end Limits

end LiteralPack
