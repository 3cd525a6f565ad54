import LiteralPack.Proofs.Escape

/-!
How Kotlin reads what stands behind the opening quote of a string. One scan decodes the escapes up
to the closing quote, and a dollar sign without a backslash marks a template. Kotlin's escapes are
not those of `Literal.decode`: a form feed has no letter here, and what is no escape is refused.
-/

namespace LiteralPack.Kotlin

/-- Why source is not the rest of a string. -/
inductive Fault
  | unterminated
  | lineEnd
  | unknownEscape
  deriving DecidableEq, Repr

/-- What a string is made of. -/
inductive Piece
  | unit (value : Nat)
  | template
  deriving DecidableEq, Repr

/-- The pieces of a string, and how many characters stand before its closing quote. -/
structure Reading where
  pieces : List Piece
  stop : Nat
  deriving DecidableEq, Repr

/-- A reading behind pieces that take `width` characters. -/
def Reading.behind (pieces : List Piece) (width : Nat) (reading : Reading) : Reading :=
  ⟨pieces ++ reading.pieces, width + reading.stop⟩

/-- What a letter behind a backslash stands for. -/
def escapes : List (Char × Char) :=
  [('t', '\t'), ('b', '\x08'), ('n', '\n'), ('r', '\r'), ('\'', '\''), ('"', '"'), ('\\', '\\'),
    ('$', '$')]

def escapedUnit? (letter : Char) : Option Nat :=
  (escapes.find? (·.1 = letter)).map (·.2.toNat)

/-- Reads what follows an opening quote. -/
def read : Text → Except Fault Reading
  | [] => .error .unterminated
  | ['\\'] => .error .unterminated
  | '\\' :: 'u' :: a :: b :: c :: d :: rest =>
    match Hex.readFour? a b c d with
    | some unit => (read rest).map (Reading.behind [.unit unit] 6)
    | none => .error .unknownEscape
  | '\\' :: letter :: rest =>
    match escapedUnit? letter with
    | some unit => (read rest).map (Reading.behind [.unit unit] 2)
    | none => .error .unknownEscape
  | c :: rest =>
    if c = '"' then .ok ⟨[], 0⟩
    else if c = '\n' ∨ c = '\r' then .error .lineEnd
    else if c = '$' then (read rest).map (Reading.behind [.template] 1)
    else (read rest).map (Reading.behind ((Utf16.units c).map .unit) 1)

variable {c letter : Char}

theorem Reading.map_behind_behind (first second : List Piece) (m n : Nat)
    (reading : Except Fault Reading) :
    (reading.map (behind second n)).map (behind first m) =
      reading.map (behind (first ++ second) (m + n)) := by
  cases reading with
  | error fault => rfl
  | ok reading => simp [Except.map, behind, Nat.add_assoc]

/-! ### The forms of a piece -/

theorem read_quote (rest : Text) : read ('"' :: rest) = .ok ⟨[], 0⟩ := by
  simp [read]

theorem read_letter {unit : Nat} (h : escapedUnit? letter = some unit) (rest : Text) :
    read ('\\' :: letter :: rest) = (read rest).map (Reading.behind [.unit unit] 2) := by
  have hu : letter ≠ 'u' := by
    rintro rfl
    cases h
  simp [read, hu, h]

theorem read_plain (hc : c ≠ '"' ∧ c ≠ '\\' ∧ c ≠ '\n' ∧ c ≠ '\r' ∧ c ≠ '$') (rest : Text) :
    read (c :: rest) = (read rest).map (Reading.behind ((Utf16.units c).map .unit) 1) := by
  obtain ⟨hquote, hslash, hfeed, hreturn, hdollar⟩ := hc
  simp [read, hquote, hslash, hfeed, hreturn, hdollar]

theorem read_digits {a b c d : Char} {u : Nat} (h : Hex.readFour? a b c d = some u) (rest : Text) :
    read ('\\' :: 'u' :: a :: b :: c :: d :: rest) =
      (read rest).map (Reading.behind [.unit u] 6) := by
  simp only [read, h]

theorem read_unitEscape {u : Nat} (hu : u < 0x10000) (rest : Text) :
    read (Literal.unitEscape u ++ rest) = (read rest).map (Reading.behind [.unit u] 6) :=
  read_digits (Hex.readFour?_four u hu) rest

theorem read_unitEscapes {us : List Nat} (hus : ∀ u ∈ us, u < 0x10000) (rest : Text) :
    read (us.flatMap Literal.unitEscape ++ rest) =
      (read rest).map (Reading.behind (us.map .unit) (us.flatMap Literal.unitEscape).length) := by
  induction us with
  | nil =>
      cases hread : read rest <;> simp [hread, Except.map, Reading.behind]
  | cons u us ih =>
      rw [List.forall_mem_cons] at hus
      rw [List.flatMap_cons, List.append_assoc, read_unitEscape hus.1, ih hus.2,
        Reading.map_behind_behind, List.length_append]
      rfl

/-! ### Escaped texts -/

theorem escapedUnit?_of_letter? (h : Literal.letter? .kotlin c = some letter) :
    escapedUnit? letter = some c.toNat ∧ c.toNat < 0x10000 := by
  unfold Literal.letter? at h
  split at h <;> cases h <;> trivial

theorem ne_dollar_of_letter? (h : Literal.letter? .kotlin c = none) : c ≠ '$' := by
  rintro rfl
  cases h

theorem read_escapeChar (c : Char) (rest : Text) :
    read (Literal.escapeChar .kotlin c ++ rest) =
      (read rest).map (Reading.behind ((Utf16.units c).map .unit)
        (Literal.escapeChar .kotlin c).length) := by
  have hform := Literal.escapeForm .kotlin c
  generalize Literal.escapeChar .kotlin c = body at hform ⊢
  cases hform with
  | letter h =>
      obtain ⟨hunit, hlt⟩ := escapedUnit?_of_letter? h
      rw [Utf16.units_of_lt hlt]
      exact read_letter hunit rest
  | plain h hc =>
      obtain ⟨hquote, hslash, hfeed, hreturn⟩ := Literal.ne_of_letter?_eq_none h
      exact read_plain ⟨hquote, hslash, hfeed, hreturn, ne_dollar_of_letter? h⟩ rest
  | units h => exact read_unitEscapes (fun u => Utf16.lt_of_mem_units) rest

/-- An escaped text means itself to Kotlin, whatever source follows: the string is closed by the
quote behind the text, and it is made of the text's UTF-16 units and no template. -/
theorem read_escape_quote (t rest : Text) :
    read (Literal.escape .kotlin t ++ Literal.quote :: rest) =
        .ok ⟨(t.flatMap Utf16.units).map .unit, (Literal.escape .kotlin t).length⟩ ∧
      ∀ c ∈ Literal.escape .kotlin t, ' ' ≤ c ∧ c ≤ '~' := by
  constructor
  · induction t with
    | nil => exact read_quote rest
    | cons c t ih =>
        rw [Literal.escape_cons, List.append_assoc, read_escapeChar, ih, List.flatMap_cons,
          List.map_append, List.length_append]
        rfl
  · exact Literal.printable_escape .kotlin t

/-- Left alone, a dollar sign would open a template. -/
example : read ['$', 'x', '"'] = .ok ⟨[.template, .unit 0x78], 2⟩ := by cbv

end LiteralPack.Kotlin
