import LiteralPack.Measure

/-!
Slices of a text by byte offsets. An offset counts the UTF-8 bytes in front of it and is good only
where a code point begins or the text ends; what lies between two good offsets is a text again.
-/

namespace LiteralPack.Text

/-- The two sides of a byte offset, unless it lies within a code point or behind the text. -/
def splitBytes? : Text → Nat → Option (Text × Text)
  | t, 0 => some ([], t)
  | [], _ + 1 => none
  | c :: t, n + 1 =>
    if c.utf8Size ≤ n + 1 then
      (splitBytes? t (n + 1 - c.utf8Size)).map fun (before, behind) => (c :: before, behind)
    else none

def slice? (t : Text) (start stop : Nat) : Option Text :=
  if start ≤ stop then do
    let (_, behind) ← splitBytes? t start
    let (piece, _) ← splitBytes? behind (stop - start)
    return piece
  else none

/-- The byte offset of the code point numbered `n`, or of the end of a shorter text. -/
def byteOffset : Text → Nat → Nat
  | _, 0 => 0
  | [], _ + 1 => 0
  | c :: t, n + 1 => c.utf8Size + byteOffset t n

@[simp] theorem utf8Size_cons (c : Char) (t : Text) :
    utf8Size (c :: t) = c.utf8Size + utf8Size t := rfl

theorem splitBytes?_eq_some_iff {t before behind : Text} {n : Nat} :
    splitBytes? t n = some (before, behind) ↔ t = before ++ behind ∧ n = before.utf8Size := by
  fun_induction splitBytes? t n generalizing before with
  | case1 t =>
    cases before with
    | nil => simp [eq_comm]
    | cons c before =>
      have hc := c.utf8Size_pos
      constructor
      · intro h
        cases h
      · rintro ⟨-, h⟩
        rw [utf8Size_cons] at h
        omega
  | case2 n =>
    cases before <;> simp
  | case3 c t n hle ih =>
    cases before with
    | nil => simp
    | cons d before =>
      simp only [Option.map_eq_some_iff, Prod.exists, Prod.mk.injEq, List.cons.injEq,
        List.cons_append, utf8Size_cons]
      constructor
      · rintro ⟨before', behind', h, ⟨rfl, rfl⟩, rfl⟩
        obtain ⟨rfl, hn⟩ := ih.1 h
        exact ⟨⟨rfl, rfl⟩, by omega⟩
      · rintro ⟨⟨rfl, rfl⟩, hn⟩
        exact ⟨before, behind, ih.2 ⟨rfl, by omega⟩, ⟨rfl, rfl⟩, rfl⟩
  | case4 c t n hlt =>
    cases before with
    | nil => simp
    | cons d before =>
      simp only [reduceCtorEq, List.cons_append, List.cons.injEq, utf8Size_cons, false_iff]
      rintro ⟨⟨rfl, -⟩, hn⟩
      omega

theorem splitBytes?_append (before behind : Text) :
    splitBytes? (before ++ behind) before.utf8Size = some (before, behind) :=
  splitBytes?_eq_some_iff.2 ⟨rfl, rfl⟩

/-- A slice is what stands between two parts of the text, and its offsets are their sizes. -/
theorem slice?_eq_some_iff {t piece : Text} {start stop : Nat} :
    slice? t start stop = some piece ↔ ∃ before behind, t = before ++ (piece ++ behind) ∧
      start = before.utf8Size ∧ stop = before.utf8Size + piece.utf8Size := by
  simp only [slice?, Option.bind_eq_bind, Option.pure_def]
  constructor
  · intro h
    split at h
    · simp only [Option.bind_eq_some_iff, Prod.exists, Option.some.injEq] at h
      obtain ⟨before, behind, hstart, _, behind', hstop, rfl⟩ := h
      obtain ⟨rfl, rfl⟩ := splitBytes?_eq_some_iff.1 hstart
      obtain ⟨rfl, hsize⟩ := splitBytes?_eq_some_iff.1 hstop
      exact ⟨before, behind', rfl, rfl, by omega⟩
    · cases h
  · rintro ⟨before, behind, rfl, rfl, rfl⟩
    rw [if_pos (Nat.le_add_right _ _), splitBytes?_append, Nat.add_sub_cancel_left]
    simp only [Option.bind_some, splitBytes?_append]

theorem byteOffset_eq (t : Text) (n : Nat) : byteOffset t n = utf8Size (t.take n) := by
  fun_induction byteOffset t n with
  | case1 => rfl
  | case2 => rfl
  | case3 c t n ih => rw [ih, List.take_succ_cons, utf8Size_cons]

end LiteralPack.Text
