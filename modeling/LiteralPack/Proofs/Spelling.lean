import LiteralPack.Proofs.Escape

/-!
The grammar that decoding accepts. A body spells its text code point by code point: a character
other than a backslash spells itself, a letter behind a backslash what it means, and units spell
what they encode, two of them where they are a surrogate pair.
-/

namespace LiteralPack.Literal

/-- How a body spells one code point. -/
inductive Spells : Text → Char → Prop
  | plain {c : Char} (hc : c ≠ '\\') : Spells [c] c
  | letter {letter c : Char} (h : meaning? letter = some c) : Spells ['\\', letter] c
  | unit {a b c d : Char} {u : Nat} (h : Hex.readFour? a b c d = some u)
      (hhigh : Utf16.isHigh u = false) (hlow : Utf16.isLow u = false) :
      Spells ['\\', 'u', a, b, c, d] (Char.ofNat u)
  | pair {a b c d e f g h : Char} {lead tail : Nat} (hlead : Hex.readFour? a b c d = some lead)
      (hhigh : Utf16.isHigh lead = true) (htail : Hex.readFour? e f g h = some tail)
      (hlow : Utf16.isLow tail = true) :
      Spells ['\\', 'u', a, b, c, d, '\\', 'u', e, f, g, h] (Utf16.join lead tail)

inductive SpellsText : Text → Text → Prop
  | nil : SpellsText [] []
  | cons {spelling rest : Text} {c : Char} {t : Text} (head : Spells spelling c)
      (tail : SpellsText rest t) : SpellsText (spelling ++ rest) (c :: t)

/-- How a body spells a text when a high surrogate may still wait for its low one. -/
inductive SpellsBehind : Option Nat → Text → Text → Prop
  | settled {body t : Text} (h : SpellsText body t) : SpellsBehind none body t
  | waiting {lead tail : Nat} {e f g h : Char} {rest t : Text}
      (htail : Hex.readFour? e f g h = some tail) (hlow : Utf16.isLow tail = true)
      (hrest : SpellsText rest t) :
      SpellsBehind (some lead) ('\\' :: 'u' :: e :: f :: g :: h :: rest)
        (Utf16.join lead tail :: t)

variable {spelling body t : Text} {c letter : Char}

theorem decodeFrom_spelling (h : Spells spelling c) (decoded rest : Text) :
    decodeFrom none decoded (spelling ++ rest) = decodeFrom none (c :: decoded) rest := by
  cases h with
  | plain hc => exact decodeFrom_plain decoded rest hc
  | letter h => exact decodeFrom_letter decoded rest (ne_u_of_meaning? h) h
  | unit h hhigh hlow => simp [decodeFrom, h, hhigh, hlow]
  | pair hlead hhigh htail hlow => simp [decodeFrom, hlead, hhigh, htail, hlow]

theorem decodeFrom_of_spellsText (h : SpellsText body t) (decoded : Text) :
    decodeFrom none decoded body = .ok (decoded.reverse ++ t) := by
  induction h generalizing decoded with
  | nil => simp [decodeFrom]
  | cons head _ ih =>
      rw [decodeFrom_spelling head, ih, List.reverse_cons, List.append_assoc]
      rfl

theorem exists_spellsBehind_append {decoded rest : Text} (head : Spells spelling c)
    (h : ∃ text, t = (c :: decoded).reverse ++ text ∧ SpellsBehind none rest text) :
    ∃ text, t = decoded.reverse ++ text ∧ SpellsBehind none (spelling ++ rest) text := by
  obtain ⟨text, rfl, ⟨hrest⟩⟩ := h
  refine ⟨c :: text, ?_, .settled (.cons head hrest)⟩
  rw [List.reverse_cons, List.append_assoc]
  rfl

theorem spellsBehind_of_decodeFrom (high : Option Nat) (decoded : Text)
    (h : decodeFrom high decoded body = .ok t) :
    ∃ text, t = decoded.reverse ++ text ∧ SpellsBehind high body text := by
  fun_induction decodeFrom high decoded body
  case case2 =>
      cases h
      exact ⟨[], (List.append_nil _).symm, .settled .nil⟩
  case case5 hlead hhigh ih =>
      -- A high surrogate is settled by the low one that the rest has to begin with.
      obtain ⟨text, rfl, hrest⟩ := ih h
      cases hrest with
      | waiting htail hlow hrest =>
          exact ⟨_, rfl, .settled (.cons (.pair hlead hhigh htail hlow) hrest)⟩
  case case7 hunit hhigh hlow ih =>
      rw [Bool.not_eq_true] at hhigh hlow
      exact exists_spellsBehind_append (.unit hunit hhigh hlow) (ih h)
  case case8 tail htail lead hlow ih =>
      obtain ⟨text, rfl, ⟨hrest⟩⟩ := ih h
      refine ⟨_, ?_, .waiting htail hlow hrest⟩
      rw [List.reverse_cons, List.append_assoc]
      rfl
  case case13 hmeaning ih => exact exists_spellsBehind_append (.letter hmeaning) (ih h)
  case case15 decoded c rest hlast _ _ hletter ih =>
      have hc : c ≠ '\\' := by
        intro hc
        cases rest with
        | nil => exact hlast hc rfl
        | cons letter rest => exact hletter letter rest hc rfl
      exact exists_spellsBehind_append (.plain hc) (ih h)
  all_goals cases h

/-- Decoding accepts the bodies that spell a text, and gives the text they spell. -/
theorem decode_eq_ok_iff : decode body = .ok t ↔ SpellsText body t := by
  constructor
  · intro h
    obtain ⟨text, rfl, ⟨h⟩⟩ := spellsBehind_of_decodeFrom none [] h
    exact h
  · intro h
    exact decodeFrom_of_spellsText h []

end LiteralPack.Literal
