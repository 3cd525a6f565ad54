import LiteralPack.Text
import LiteralPack.Unicode.Blank

/-!
Trimming and splitting of texts. Segments are what lies between separators, so there is one more
of them than there are separators; words are the non-empty segments between white space. Either
list of a text is put together from those of its two sides at a separator.
-/

namespace LiteralPack.Text

def dropRightWhile (p : Char → Bool) (t : Text) : Text := (t.reverse.dropWhile p).reverse

def trimLeft (t : Text) : Text := t.dropWhile Unicode.isBlank

def trimRight (t : Text) : Text := dropRightWhile Unicode.isBlank t

def trim (t : Text) : Text := trimRight (trimLeft t)

/-- Puts a character in front of the first segment. -/
def extend (c : Char) : List Text → List Text
  | [] => [[c]]
  | s :: rest => (c :: s) :: rest

def segments (separator : Char → Bool) (t : Text) : List Text :=
  t.foldr (fun c found => if separator c then [] :: found else extend c found) [[]]

def words (t : Text) : List Text := (segments Unicode.isBlank t).filter (!·.isEmpty)

/-- What lies before and behind the first character that satisfies `p`. -/
def splitFirst? (p : Char → Bool) (t : Text) : Option (Text × Text) :=
  match t.span (!p ·) with
  | (_, []) => none
  | (before, _ :: behind) => some (before, behind)

/-- What lies before and behind the last character that satisfies `p`. -/
def splitLast? (p : Char → Bool) (t : Text) : Option (Text × Text) :=
  (splitFirst? p t.reverse).map fun (behind, before) => (before.reverse, behind.reverse)

theorem segments_cons (separator : Char → Bool) (c : Char) (t : Text) :
    segments separator (c :: t) =
      if separator c then [] :: segments separator t else extend c (segments separator t) := rfl

theorem segments_ne_nil (separator : Char → Bool) (t : Text) : segments separator t ≠ [] := by
  cases t with
  | nil => simp [segments]
  | cons c t =>
    rw [segments_cons]
    split
    · simp
    · cases segments separator t <;> simp [extend]

theorem extend_append (c : Char) {s : List Text} (h : s ≠ []) (t : List Text) :
    extend c (s ++ t) = extend c s ++ t := by
  cases s with
  | nil => exact absurd rfl h
  | cons a s => rfl

/-- A text falls apart at any of its separators. -/
theorem segments_append_cons (separator : Char → Bool) {c : Char} (hc : separator c = true)
    (s t : Text) :
    segments separator (s ++ c :: t) = segments separator s ++ segments separator t := by
  induction s with
  | nil => simp [segments, hc]
  | cons a s ih =>
    rw [List.cons_append, segments_cons, segments_cons, ih]
    split
    · rfl
    · exact extend_append a (segments_ne_nil separator s) _

theorem words_append_cons {c : Char} (hc : Unicode.isBlank c = true) (s t : Text) :
    words (s ++ c :: t) = words s ++ words t := by
  rw [words, segments_append_cons _ hc, List.filter_append]
  rfl

end LiteralPack.Text
