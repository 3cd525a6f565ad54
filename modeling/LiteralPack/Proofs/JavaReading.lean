import LiteralPack.Proofs.Escape

/-!
How Java reads what stands behind the opening quote of a string literal, in two phases. Unicode
escapes are replaced first, throughout the source; then the literal is scanned up to its closing
quote. A backslash behind an odd number of backslashes never begins a unicode escape, so the
proofs carry the parity of the backslashes before each escaped character.
-/

namespace LiteralPack.Java

/-- A UTF-16 unit that is left after the first phase, and where in the source it was written. -/
structure SourceUnit where
  value : Nat
  offset : Nat
  deriving DecidableEq, Repr

/-- Whether a backslash may begin a unicode escape. What stands before it comes last code point
first. -/
def eligible (before : Text) : Bool := (before.takeWhile (· = '\\')).length % 2 = 0

/-- The unit that a backslash in front of `rest` is replaced by, and the length of what names it:
one or more marks and four hexadecimal digits. Marks with fewer digits are left to the second
phase, which refuses them. -/
def named? (rest : Text) : Option (Nat × Nat) :=
  let marks := rest.takeWhile (· = 'u')
  match marks, rest.drop marks.length with
  | _ :: _, a :: b :: c :: d :: _ =>
    (Hex.readFour? a b c d).map fun unit => (unit, marks.length + 4)
  | _, _ => none

/-- The first phase. -/
def translate (before : Text) : Text → List SourceUnit
  | [] => []
  | c :: rest =>
    match if c = '\\' ∧ eligible before then named? rest else none with
    | some (unit, n) =>
      ⟨unit, before.length⟩ :: translate ((rest.take n).reverse ++ c :: before) (rest.drop n)
    | none =>
      (Utf16.units c).map (⟨·, before.length⟩) ++ translate (c :: before) rest
termination_by rest => rest.length
decreasing_by all_goals simp only [List.length_drop, List.length_cons]; omega

/-- What a letter behind a backslash stands for in the second phase. -/
def escapes : List (Char × Char) :=
  [('b', '\x08'), ('t', '\t'), ('n', '\n'), ('f', '\x0c'), ('r', '\r'), ('"', '"'), ('\'', '\''),
    ('\\', '\\')]

def escapedUnit? (letter : Nat) : Option Nat :=
  (escapes.find? (·.1.toNat = letter)).map (·.2.toNat)

/-- The units of a literal, and where its closing quote is written. -/
structure Reading where
  units : List Nat
  stop : Nat
  deriving DecidableEq, Repr

def Reading.behind (us : List Nat) (reading : Reading) : Reading :=
  { reading with units := us ++ reading.units }

/-- The second phase. `escaped` says that a backslash has just been read. It fails at a raw line
end, at an unknown escape, and where the source ends inside the literal. -/
def scan : Bool → List SourceUnit → Option Reading
  | _, [] => none
  | true, u :: rest =>
    (escapedUnit? u.value).bind fun unit => (scan false rest).map (Reading.behind [unit])
  | false, u :: rest =>
    if u.value = '"'.toNat then some ⟨[], u.offset⟩
    else if u.value = '\n'.toNat ∨ u.value = '\r'.toNat then none
    else if u.value = '\\'.toNat then scan true rest
    else (scan false rest).map (Reading.behind [u.value])

/-- Reads what follows an opening quote, so that no backslash stands before it. -/
def read (source : Text) : Option Reading := scan false (translate [] source)

variable {before rest : Text} {c letter : Char}

/-! ### The first phase -/

theorem eligible_cons_of_ne (hc : c ≠ '\\') (before : Text) : eligible (c :: before) = true := by
  simp [eligible, hc]

theorem eligible_backslash (before : Text) : eligible ('\\' :: before) = !eligible before := by
  simp only [eligible, List.takeWhile_cons, decide_true, if_true, List.length_cons]
  rw [← decide_not, decide_eq_decide]
  omega

theorem translate_plain (hc : c ≠ '\\') (before rest : Text) :
    translate before (c :: rest) =
      (Utf16.units c).map (⟨·, before.length⟩) ++ translate (c :: before) rest := by
  rw [translate, if_neg fun h => hc h.1]

theorem translate_backslash (before rest : Text)
    (h : eligible before = true → named? rest = none) :
    translate before ('\\' :: rest) =
      ⟨'\\'.toNat, before.length⟩ :: translate ('\\' :: before) rest := by
  have hnone : (if '\\' = '\\' ∧ eligible before = true then named? rest else none) = none := by
    split
    · next he => exact h he.2
    · rfl
  rw [translate, hnone]
  rfl

theorem named?_of_ne (hc : c ≠ 'u') (rest : Text) : named? (c :: rest) = none := by
  simp [named?, hc]

theorem named?_digits {a b c d : Char} {u : Nat} (h : Hex.readFour? a b c d = some u)
    (rest : Text) : named? ('u' :: a :: b :: c :: d :: rest) = some (u, 5) := by
  have ha := (Hex.ne_of_readFour? h).1
  simp [named?, ha, h]

theorem translate_digits (he : eligible before = true) {a b c d : Char} {u : Nat}
    (h : Hex.readFour? a b c d = some u) (rest : Text) :
    translate before ('\\' :: 'u' :: a :: b :: c :: d :: rest) =
      ⟨u, before.length⟩ :: translate (d :: c :: b :: a :: 'u' :: '\\' :: before) rest := by
  rw [translate, if_pos ⟨rfl, he⟩, named?_digits h]
  rfl

theorem translate_unitEscape (he : eligible before = true) {u : Nat} (hu : u < 0x10000)
    (rest : Text) :
    translate before (Literal.unitEscape u ++ rest) =
      ⟨u, before.length⟩ :: translate ((Literal.unitEscape u).reverse ++ before) rest :=
  translate_digits he (Hex.readFour?_four u hu) rest

theorem digit_ne_backslash : ∀ n < 16, Hex.digit n ≠ '\\' := by decide

theorem eligible_unitEscape (u : Nat) (before : Text) :
    eligible ((Literal.unitEscape u).reverse ++ before) = true :=
  eligible_cons_of_ne (digit_ne_backslash (u % 16) (Nat.mod_lt _ (by decide))) _

/-- Behind an eligible backslash no other one is eligible, so the pair stays as it is. -/
theorem translate_letter (he : eligible before = true) (hu : letter ≠ 'u')
    (hlt : letter.toNat < 0x10000) (rest : Text) :
    translate before ('\\' :: letter :: rest) =
      ⟨'\\'.toNat, before.length⟩ :: ⟨letter.toNat, before.length + 1⟩ ::
        translate (letter :: '\\' :: before) rest := by
  rw [translate_backslash before _ fun _ => named?_of_ne hu rest]
  congr 1
  by_cases hb : letter = '\\'
  · -- The second backslash stands behind an odd number of them.
    subst hb
    exact translate_backslash _ rest fun h => by simp [eligible_backslash, he] at h
  · rw [translate_plain hb, Utf16.units_of_lt hlt]
    rfl

theorem eligible_letter (he : eligible before = true) (letter : Char) :
    eligible (letter :: '\\' :: before) = true := by
  by_cases hb : letter = '\\'
  · rw [hb, eligible_backslash, eligible_backslash, he]
    rfl
  · exact eligible_cons_of_ne hb _

theorem translate_unitEscapes (he : eligible before = true) {us : List Nat}
    (hus : ∀ u ∈ us, u < 0x10000) (rest : Text) :
    ∃ named : List SourceUnit, named.map SourceUnit.value = us ∧
      translate before (us.flatMap Literal.unitEscape ++ rest) =
        named ++ translate ((us.flatMap Literal.unitEscape).reverse ++ before) rest := by
  induction us generalizing before with
  | nil => exact ⟨[], rfl, rfl⟩
  | cons u us ih =>
      rw [List.forall_mem_cons] at hus
      obtain ⟨named, hvalues, htail⟩ := ih (eligible_unitEscape u before) hus.2
      refine ⟨⟨u, before.length⟩ :: named, by rw [List.map_cons, hvalues], ?_⟩
      rw [List.flatMap_cons, List.append_assoc, translate_unitEscape he hus.1, htail,
        List.reverse_append, List.append_assoc]
      rfl

/-! ### The second phase -/

theorem scan_cons {u : SourceUnit} (h : u.value ≠ '"'.toNat ∧ u.value ≠ '\\'.toNat ∧
    u.value ≠ '\n'.toNat ∧ u.value ≠ '\r'.toNat) (rest : List SourceUnit) :
    scan false (u :: rest) = (scan false rest).map (Reading.behind [u.value]) := by
  obtain ⟨hquote, hslash, hfeed, hreturn⟩ := h
  rw [scan, if_neg hquote, if_neg (not_or.2 ⟨hfeed, hreturn⟩), if_neg hslash]

/-- Units that neither end a line or the literal nor begin an escape stand for themselves. -/
theorem scan_append {us : List SourceUnit} (h : ∀ u ∈ us, u.value ≠ '"'.toNat ∧
    u.value ≠ '\\'.toNat ∧ u.value ≠ '\n'.toNat ∧ u.value ≠ '\r'.toNat)
    (rest : List SourceUnit) :
    scan false (us ++ rest) = (scan false rest).map (Reading.behind (us.map SourceUnit.value)) := by
  induction us with
  | nil =>
      have hid : Reading.behind [] = id := rfl
      rw [List.nil_append, List.map_nil, hid, Option.map_id_fun, id]
  | cons u us ih =>
      rw [List.forall_mem_cons] at h
      rw [List.cons_append, scan_cons h.1, ih h.2, Option.map_map]
      rfl

theorem scan_escape {slash letter : SourceUnit} {unit : Nat} (hs : slash.value = '\\'.toNat)
    (h : escapedUnit? letter.value = some unit) (rest : List SourceUnit) :
    scan false (slash :: letter :: rest) = (scan false rest).map (Reading.behind [unit]) := by
  rw [scan, hs, if_neg (by decide), if_neg (by decide), if_pos rfl, scan, h]
  rfl

theorem scan_quote {quote : SourceUnit} (hq : quote.value = '"'.toNat) (rest : List SourceUnit) :
    scan false (quote :: rest) = some ⟨[], quote.offset⟩ := by
  rw [scan, if_pos hq]

/-- A quote that is written as its unit closes the literal, so it needs its letter. -/
example : read (Literal.unitEscape '"'.toNat ++ ['a', '"']) = some ⟨[], 0⟩ := by cbv

/-! ### Escaped texts -/

theorem escapedUnit?_of_letter? (h : Literal.letter? .java c = some letter) :
    escapedUnit? letter.toNat = some c.toNat ∧ c.toNat < 0x10000 := by
  unfold Literal.letter? at h
  split at h <;> cases h <;> trivial

/-- Only the characters that the second phase looks at have a unit that it looks at. -/
theorem units_plain (h : c ≠ '"' ∧ c ≠ '\\' ∧ c ≠ '\n' ∧ c ≠ '\r') : ∀ u ∈ Utf16.units c,
    u ≠ '"'.toNat ∧ u ≠ '\\'.toNat ∧ u ≠ '\n'.toNat ∧ u ≠ '\r'.toNat := by
  obtain ⟨hquote, hslash, hfeed, hreturn⟩ := h
  intro u hu
  refine ⟨?_, ?_, ?_, ?_⟩ <;> rintro rfl
  · exact hquote (Utf16.eq_of_mem_units (by decide) hu)
  · exact hslash (Utf16.eq_of_mem_units (by decide) hu)
  · exact hfeed (Utf16.eq_of_mem_units (by decide) hu)
  · exact hreturn (Utf16.eq_of_mem_units (by decide) hu)

theorem scan_plain (h : c ≠ '"' ∧ c ≠ '\\' ∧ c ≠ '\n' ∧ c ≠ '\r') (before rest : Text) :
    scan false (translate before (c :: rest)) =
      (scan false (translate (c :: before) rest)).map (Reading.behind (Utf16.units c)) := by
  rw [translate_plain h.2.1, scan_append]
  · simp only [List.map_map, Function.comp_def, List.map_id']
  · intro u hu
    obtain ⟨value, hvalue, rfl⟩ := List.mem_map.1 hu
    exact units_plain h value hvalue

/-- The parity of the backslashes survives every escape. -/
theorem eligible_escapeChar (he : eligible before = true) (c : Char) :
    eligible ((Literal.escapeChar .java c).reverse ++ before) = true := by
  have hform := Literal.escapeForm .java c
  generalize Literal.escapeChar .java c = body at hform ⊢
  cases hform with
  | letter h => exact eligible_letter he _
  | plain h hc => exact eligible_cons_of_ne (Literal.ne_of_letter?_eq_none h).2.1 before
  | units h =>
      induction Utf16.units c generalizing before with
      | nil => exact he
      | cons u us ih =>
          rw [List.flatMap_cons, List.reverse_append, List.append_assoc]
          exact ih (eligible_unitEscape u before)

theorem scan_escapeChar (he : eligible before = true) (c : Char) (rest : Text) :
    scan false (translate before (Literal.escapeChar .java c ++ rest)) =
      (scan false (translate ((Literal.escapeChar .java c).reverse ++ before) rest)).map
        (Reading.behind (Utf16.units c)) := by
  have hform := Literal.escapeForm .java c
  generalize Literal.escapeChar .java c = body at hform ⊢
  cases hform with
  | @letter letter h =>
      obtain ⟨hunit, hlt⟩ := escapedUnit?_of_letter? h
      have hletter : letter.toNat < 0x10000 :=
        Nat.lt_trans (Literal.printable_of_letter? h).toNat_lt (by decide)
      rw [Utf16.units_of_lt hlt]
      have hpair := translate_letter he (Literal.ne_u_of_letter? h) hletter rest
      exact (congrArg (scan false) hpair).trans (scan_escape rfl hunit _)
  | plain h hc => exact scan_plain (Literal.ne_of_letter?_eq_none h) before rest
  | units h =>
      -- The named units are those of `c`, so the second phase takes them for themselves.
      have hlt : ∀ u ∈ Utf16.units c, u < 0x10000 := fun u => Utf16.lt_of_mem_units
      obtain ⟨named, hvalues, htranslate⟩ := translate_unitEscapes he hlt rest
      rw [htranslate, scan_append, hvalues]
      intro u hu
      exact units_plain (Literal.ne_of_letter?_eq_none h) _ (hvalues ▸ List.mem_map_of_mem hu)

theorem scan_translate_escape (he : eligible before = true) (t rest : Text) :
    scan false (translate before (Literal.escape .java t ++ Literal.quote :: rest)) =
      some ⟨t.flatMap Utf16.units, before.length + (Literal.escape .java t).length⟩ := by
  -- On the text, with any `before` behind which a backslash is eligible.
  induction t generalizing before with
  | nil =>
      rw [Literal.escape_nil, List.nil_append, translate_plain (by decide),
        Utf16.units_of_lt (by decide)]
      exact scan_quote rfl _
  | cons c t ih =>
      rw [Literal.escape_cons, List.append_assoc, scan_escapeChar he, ih (eligible_escapeChar he c),
        List.length_append, List.length_append, List.length_reverse, Option.map_some]
      simp only [Reading.behind, List.flatMap_cons]
      congr 2
      omega

/-- An escaped text means itself to Java, whatever source follows: the literal is closed by the
quote behind the text and holds its UTF-16 encoding. -/
theorem read_escape (t rest : Text) :
    read (Literal.escape .java t ++ Literal.quote :: rest) =
        some ⟨t.flatMap Utf16.units, (Literal.escape .java t).length⟩ ∧
      ∀ c ∈ Literal.escape .java t, ' ' ≤ c ∧ c ≤ '~' := by
  constructor
  · rw [read, scan_translate_escape rfl, List.length_nil, Nat.zero_add]
  · exact Literal.printable_escape .java t

end LiteralPack.Java
