import LiteralPack.Proofs.Acceptance
import LiteralPack.Proofs.JavaReading
import LiteralPack.Proofs.KotlinReading
import LiteralPack.Proofs.Spelling

/-!
What an accepted set is worth to the compilers. The verifier decodes the bodies of both targets in
one way, which takes a quote, a line end or a dollar sign as it stands and knows an escape that
Kotlin does not have. Whether a compiler reads a body as the text it decodes to is settled by its
lexemes, the least parts of a body that stand for units of their own.
-/

namespace LiteralPack

namespace Literal

/-- A unit escape, a backslash with its letter, or a character. -/
def lexemes : Text → List Text
  | '\\' :: 'u' :: a :: b :: c :: d :: rest => ['\\', 'u', a, b, c, d] :: lexemes rest
  | '\\' :: letter :: rest => ['\\', letter] :: lexemes rest
  | c :: rest => [c] :: lexemes rest
  | [] => []

/-- The unit that a lexeme names, if it is a unit escape. -/
def namedUnit? : Text → Option Nat
  | ['\\', 'u', a, b, c, d] => Hex.readFour? a b c d
  | _ => none

/-- What no literal of a target may hold: a delimiter or a line end as it stands, and for Kotlin
the beginning of a template and the escape of a form feed. -/
def forbidden : Target → List Text
  | .java => [['"'], ['\n'], ['\r']]
  | .kotlin => [['"'], ['\n'], ['\r'], ['$'], ['\\', 'f']]

/-- A body without what no literal of a target may hold. -/
def Emittable (target : Target) (body : Text) : Prop :=
  ∀ lexeme ∈ lexemes body, lexeme ∉ forbidden target

instance (target : Target) : DecidablePred (Emittable target) := fun body =>
  inferInstanceAs (Decidable (∀ lexeme ∈ lexemes body, lexeme ∉ forbidden target))

/-- A lexeme and the units it stands for. A half of a surrogate pair is one of its own. -/
inductive Lexeme : Text → List Nat → Prop
  | plain {c : Char} (hc : c ≠ '\\') : Lexeme [c] (Utf16.units c)
  | letter {letter c : Char} (h : meaning? letter = some c) : Lexeme ['\\', letter] [c.toNat]
  | unit {a b c d : Char} {u : Nat} (h : Hex.readFour? a b c d = some u) :
      Lexeme ['\\', 'u', a, b, c, d] [u]

inductive Written : Text → List Nat → Prop
  | nil : Written [] []
  | cons {lexeme rest : Text} {us vs : List Nat} (head : Lexeme lexeme us)
      (tail : Written rest vs) : Written (lexeme ++ rest) (us ++ vs)

variable {target : Target} {body lexeme rest t : Text} {c letter : Char} {us : List Nat}

theorem units_of_meaning? (h : meaning? letter = some c) : Utf16.units c = [c.toNat] := by
  apply Utf16.units_of_lt
  unfold meaning? at h
  split at h <;> cases h <;> decide

theorem written_of_spellsText (h : SpellsText body t) : Written body (t.flatMap Utf16.units) := by
  induction h with
  | nil => exact .nil
  | cons head _ ih =>
      rw [List.flatMap_cons]
      cases head with
      | plain hc => exact .cons (.plain hc) ih
      | letter h =>
          rw [units_of_meaning? h]
          exact .cons (.letter h) ih
      | unit h hhigh hlow =>
          rw [Utf16.units_ofNat (Hex.readFour?_lt h) hhigh hlow]
          exact .cons (.unit h) ih
      | pair hlead hhigh htail hlow =>
          rw [Utf16.units_join hhigh hlow]
          have hpair := Written.cons (.unit hlead) (.cons (.unit htail) ih)
          exact hpair

theorem Lexeme.length_pos (h : Lexeme lexeme us) : 0 < lexeme.length := by
  cases h <;> exact Nat.succ_pos _

theorem lexemes_append (h : Lexeme lexeme us) (rest : Text) :
    lexemes (lexeme ++ rest) = lexeme :: lexemes rest := by
  cases h with
  | plain hc => simp [lexemes, hc]
  | letter h => simp [lexemes, ne_u_of_meaning? h]
  | unit h => simp [lexemes]

theorem emittable_nil (target : Target) : Emittable target [] := List.forall_mem_nil _

theorem emittable_append (h : Lexeme lexeme us) :
    Emittable target (lexeme ++ rest) ↔ lexeme ∉ forbidden target ∧ Emittable target rest := by
  rw [Emittable, lexemes_append h, List.forall_mem_cons]
  rfl

/-! ### Escaped texts -/

theorem letter_not_mem_forbidden (h : letter? target c = some letter) :
    ['\\', letter] ∉ forbidden target := by
  cases target <;> unfold letter? at h <;> split at h <;> cases h <;> trivial

theorem plain_not_mem_forbidden (h : letter? target c = none) : [c] ∉ forbidden target := by
  obtain ⟨hquote, -, hfeed, hreturn⟩ := ne_of_letter?_eq_none h
  cases target with
  | java => simp [forbidden, hquote, hfeed, hreturn]
  | kotlin => simp [forbidden, hquote, hfeed, hreturn, Kotlin.ne_dollar_of_letter? h]

theorem emittable_unitEscapes (hus : ∀ u ∈ us, u < 0x10000) (h : Emittable target rest) :
    Emittable target (us.flatMap unitEscape ++ rest) := by
  induction us with
  | nil => exact h
  | cons u us ih =>
      rw [List.forall_mem_cons] at hus
      have hlexeme : Lexeme (unitEscape u) [u] := .unit (Hex.readFour?_four u hus.1)
      rw [List.flatMap_cons, List.append_assoc, emittable_append hlexeme]
      refine ⟨?_, ih hus.2⟩
      cases target <;> simp [forbidden, unitEscape, Hex.four]

theorem emittable_escapeChar (c : Char) (h : Emittable target rest) :
    Emittable target (escapeChar target c ++ rest) := by
  have hform := escapeForm target c
  generalize escapeChar target c = body at hform ⊢
  cases hform with
  | letter hletter =>
      rw [emittable_append (.letter (meaning?_of_letter? hletter))]
      exact ⟨letter_not_mem_forbidden hletter, h⟩
  | plain hletter hc =>
      rw [emittable_append (.plain (ne_of_letter?_eq_none hletter).2.1)]
      exact ⟨plain_not_mem_forbidden hletter, h⟩
  | units hletter => exact emittable_unitEscapes (fun u => Utf16.lt_of_mem_units) h

theorem emittable_escape (target : Target) (t : Text) : Emittable target (escape target t) := by
  induction t with
  | nil => exact emittable_nil target
  | cons c t ih => exact emittable_escapeChar c ih

end Literal

open Literal

variable {body lexeme rest : Text} {c letter : Char} {us : List Nat}

/-! ### What Kotlin reads -/

namespace Kotlin

theorem escapedUnit?_of_meaning? (h : meaning? letter = some c) (hf : letter ≠ 'f') :
    escapedUnit? letter = some c.toNat := by
  unfold meaning? at h
  split at h <;> cases h <;> trivial

theorem read_lexeme (h : Lexeme lexeme us) (hlexeme : lexeme ∉ forbidden .kotlin) (rest : Text) :
    read (lexeme ++ rest) = (read rest).map (Reading.behind (us.map .unit) lexeme.length) := by
  cases h with
  | plain hc =>
      simp only [forbidden, List.mem_cons, List.cons.injEq, List.not_mem_nil, and_true, or_false,
        not_or] at hlexeme
      obtain ⟨hquote, hfeed, hreturn, hdollar, -⟩ := hlexeme
      exact read_plain ⟨hquote, hc, hfeed, hreturn, hdollar⟩ rest
  | @letter letter _ h =>
      have hf : letter ≠ 'f' := by
        rintro rfl
        exact hlexeme (by decide)
      exact read_letter (escapedUnit?_of_meaning? h hf) rest
  | unit h => exact read_digits h rest

/-- A forbidden lexeme ends the string or its line, opens a template or is no escape. -/
theorem read_forbidden (h : lexeme ∈ forbidden .kotlin) (rest : Text) (us : List Nat) {stop : Nat}
    (hstop : 0 < stop) : read (lexeme ++ rest) ≠ .ok ⟨us.map .unit, stop⟩ := by
  intro hread
  simp only [forbidden, List.mem_cons, List.not_mem_nil, or_false] at h
  rcases h with rfl | rfl | rfl | rfl | rfl
  · rw [List.singleton_append, read_quote, Except.ok.injEq, Reading.mk.injEq] at hread
    exact hstop.ne hread.2
  · cases hread
  · cases hread
  · have htemplate : read ('$' :: rest) = (read rest).map (Reading.behind [.template] 1) := by
      simp [read]
    rw [List.singleton_append, htemplate] at hread
    cases hrest : read rest with
    | error fault =>
        rw [hrest] at hread
        cases hread
    | ok reading =>
        rw [hrest] at hread
        cases us <;> cases hread
  · cases hread

theorem map_behind_eq_ok_iff {pieces others : List Piece} {m n : Nat}
    {reading : Except Fault Reading} :
    reading.map (Reading.behind pieces m) = .ok ⟨pieces ++ others, m + n⟩ ↔
      reading = .ok ⟨others, n⟩ := by
  cases reading with
  | error fault => simp [Except.map]
  | ok reading =>
      obtain ⟨others', n'⟩ := reading
      simp [Except.map, Reading.behind]

/-- A decoded body is a Kotlin string of its text's units if no lexeme is forbidden, and only
then. -/
theorem read_written_iff (h : Written body us) (rest : Text) :
    read (body ++ quote :: rest) = .ok ⟨us.map .unit, body.length⟩ ↔ Emittable .kotlin body := by
  induction h with
  | nil => exact iff_of_true (read_quote rest) (emittable_nil _)
  | @cons lexeme tail us vs head _ ih =>
      rw [emittable_append head, List.append_assoc]
      by_cases hlexeme : lexeme ∈ forbidden .kotlin
      · have hstop : 0 < (lexeme ++ tail).length := by
          rw [List.length_append]
          exact Nat.add_pos_left head.length_pos _
        exact iff_of_false (read_forbidden hlexeme _ _ hstop) fun h => h.1 hlexeme
      · rw [read_lexeme head hlexeme, List.map_append, List.length_append, map_behind_eq_ok_iff, ih]
        exact (and_iff_right hlexeme).symm

end Kotlin

/-! ### What Java reads -/

namespace Java

variable {before : Text}

/-- Besides what no literal may hold, Java does not take a lexeme for what it decodes to if it is
an escape that Java does not have, or if its unit ends the literal or its line. -/
def Misread (lexeme : Text) : Prop :=
  lexeme = ['\\', '$'] ∨ namedUnit? lexeme ∈ [some '"'.toNat, some '\n'.toNat, some '\r'.toNat]

theorem escapedUnit?_of_meaning? (h : meaning? letter = some c) (hdollar : letter ≠ '$') :
    escapedUnit? letter.toNat = some c.toNat ∧ letter.toNat < 0x10000 := by
  unfold meaning? at h
  split at h <;> cases h <;> trivial

theorem eligible_lexeme (he : eligible before = true) (h : Lexeme lexeme us) :
    eligible (lexeme.reverse ++ before) = true := by
  cases h with
  | plain hc => exact eligible_cons_of_ne hc before
  | letter h => exact eligible_letter he _
  | unit h => exact eligible_cons_of_ne (Hex.ne_of_readFour? h).2 _

theorem scan_lexeme (he : eligible before = true) (h : Lexeme lexeme us)
    (hlexeme : lexeme ∉ forbidden .java) (hmisread : ¬ Misread lexeme)
    (hslash : namedUnit? lexeme ≠ some '\\'.toNat) (rest : Text) :
    scan false (translate before (lexeme ++ rest)) =
      (scan false (translate (lexeme.reverse ++ before) rest)).map (Reading.behind us) := by
  cases h with
  | plain hc =>
      simp only [forbidden, List.mem_cons, List.cons.injEq, List.not_mem_nil, and_true, or_false,
        not_or] at hlexeme
      obtain ⟨hquote, hfeed, hreturn⟩ := hlexeme
      exact scan_plain ⟨hquote, hc, hfeed, hreturn⟩ before rest
  | @letter letter _ h =>
      have hdollar : letter ≠ '$' := by
        rintro rfl
        exact hmisread (.inl rfl)
      obtain ⟨hunit, hlt⟩ := escapedUnit?_of_meaning? h hdollar
      have hpair := translate_letter he (ne_u_of_meaning? h) hlt rest
      exact (congrArg (scan false) hpair).trans (scan_escape rfl hunit _)
  | unit h =>
      simp only [Misread, namedUnit?, h, List.mem_cons, List.not_mem_nil, or_false, not_or, ne_eq,
        Option.some.injEq] at hmisread hslash
      obtain ⟨-, hquote, hfeed, hreturn⟩ := hmisread
      have hnamed := translate_digits he h rest
      exact (congrArg (scan false) hnamed).trans (scan_cons ⟨hquote, hslash, hfeed, hreturn⟩ _)

theorem scan_end {value : Nat}
    (h : value = '"'.toNat ∨ value = '\n'.toNat ∨ value = '\r'.toNat) (offset : Nat)
    (rest : List SourceUnit) :
    scan false (⟨value, offset⟩ :: rest) = none ∨
      scan false (⟨value, offset⟩ :: rest) = some ⟨[], offset⟩ := by
  rcases h with rfl | h
  · exact .inr (scan_quote rfl rest)
  · left
    have hquote : value ≠ '"'.toNat := by
      rcases h with rfl | rfl <;> decide
    rw [scan, if_neg hquote, if_pos h]

/-- Reading stops at the quote or the line end that such a lexeme is or names, and at an escape
that Java does not have. -/
theorem scan_stop (he : eligible before = true) (h : Lexeme lexeme us)
    (hstop : lexeme ∈ forbidden .java ∨ Misread lexeme) (rest : Text) :
    scan false (translate before (lexeme ++ rest)) = none ∨
      scan false (translate before (lexeme ++ rest)) = some ⟨[], before.length⟩ := by
  rcases hstop with hforbidden | rfl | hunit
  · simp only [forbidden, List.mem_cons, List.not_mem_nil, or_false] at hforbidden
    rcases hforbidden with rfl | rfl | rfl
    all_goals
      rw [List.singleton_append, translate_plain (by decide), Utf16.units_of_lt (by decide)]
      exact scan_end (by decide) _ _
  · left
    have hpair := translate_letter he (by decide : '$' ≠ 'u') (by decide) rest
    exact congrArg (scan false) hpair
  · cases h with
    | plain hc => simp [namedUnit?] at hunit
    | letter h => simp [namedUnit?] at hunit
    | unit h =>
        simp only [namedUnit?, h, List.mem_cons, List.not_mem_nil, or_false,
          Option.some.injEq] at hunit
        have hnamed := translate_digits he h rest
        rw [List.cons_append]
        exact hnamed ▸ scan_end hunit _ _

theorem map_behind_eq_some_iff {vs : List Nat} {stop : Nat} {reading : Option Reading} :
    reading.map (Reading.behind us) = some ⟨us ++ vs, stop⟩ ↔ reading = some ⟨vs, stop⟩ := by
  cases reading with
  | none => simp
  | some reading =>
      obtain ⟨units, stop⟩ := reading
      simp [Reading.behind]

theorem scan_written_iff (he : eligible before = true) (h : Written body us)
    (hslash : ∀ lexeme ∈ lexemes body, namedUnit? lexeme ≠ some '\\'.toNat) (rest : Text) :
    scan false (translate before (body ++ quote :: rest)) =
        some ⟨us, before.length + body.length⟩ ↔
      Emittable .java body ∧ ∀ lexeme ∈ lexemes body, ¬ Misread lexeme := by
  -- On the lexemes, with any `before` behind which a backslash is eligible. One that stops the scan
  -- stops it short of the closing quote.
  induction h generalizing before with
  | nil =>
      apply iff_of_true
      · rw [List.nil_append, translate_plain (by decide), Utf16.units_of_lt (by decide)]
        exact scan_quote rfl _
      · exact ⟨emittable_nil _, List.forall_mem_nil _⟩
  | @cons lexeme tail us vs head _ ih =>
      rw [lexemes_append head, List.forall_mem_cons] at hslash
      rw [emittable_append head, lexemes_append head, List.forall_mem_cons, List.append_assoc]
      by_cases hstop : lexeme ∈ forbidden .java ∨ Misread lexeme
      · apply iff_of_false
        · have hpos := head.length_pos
          rcases scan_stop he head hstop (tail ++ quote :: rest) with h | h
          · rw [h]
            exact Option.some_ne_none _ ∘ Eq.symm
          · rw [h, Option.some.injEq, Reading.mk.injEq, List.length_append]
            omega
        · rintro ⟨⟨hforbidden, -⟩, hmisread, -⟩
          exact hstop.elim hforbidden hmisread
      · rw [not_or] at hstop
        rw [scan_lexeme he head hstop.1 hstop.2 hslash.1]
        have hlength : before.length + (lexeme ++ tail).length =
            (lexeme.reverse ++ before).length + tail.length := by
          simp only [List.length_append, List.length_reverse]
          omega
        rw [hlength, map_behind_eq_some_iff, ih (eligible_lexeme he head) hslash.2,
          and_iff_right hstop.1, and_iff_right hstop.2]

/-- A decoded body without a backslash written as its unit is a Java literal of its text's units if
no lexeme is forbidden or misread, and only then. Such a backslash would begin an escape. -/
theorem read_written_iff (h : Written body us)
    (hslash : ∀ lexeme ∈ lexemes body, namedUnit? lexeme ≠ some '\\'.toNat) (rest : Text) :
    read (body ++ quote :: rest) = some ⟨us, body.length⟩ ↔
      Emittable .java body ∧ ∀ lexeme ∈ lexemes body, ¬ Misread lexeme := by
  have hempty : eligible [] = true := rfl
  rw [read, ← scan_written_iff hempty h hslash rest, List.length_nil, Nat.zero_add]

/-- Java reads a line feed where a backslash and the letter after it are decoded. -/
example :
    decode (unitEscape '\\'.toNat ++ ['n']) = .ok ['\\', 'n'] ∧
      read (unitEscape '\\'.toNat ++ ['n', quote]) = some ⟨['\n'.toNat], 7⟩ := by
  constructor <;> cbv

end Java

/-! ### Literals of an accepted set -/

/-- What the compilers make of a body that decodes to `t`. -/
structure Literal.Emission (body t : Text) : Prop where
  decodes : decode body = .ok t
  escaped : ∀ target, body = escape target t → Emittable target body
  kotlin : ∀ rest, Kotlin.read (body ++ quote :: rest) =
    .ok ⟨(t.flatMap Utf16.units).map .unit, body.length⟩ ↔ Emittable .kotlin body
  java : (∀ lexeme ∈ lexemes body, namedUnit? lexeme ≠ some '\\'.toNat) → ∀ rest,
    (Java.read (body ++ quote :: rest) = some ⟨t.flatMap Utf16.units, body.length⟩ ↔
      Emittable .java body ∧ ∀ lexeme ∈ lexemes body, ¬ Java.Misread lexeme)

theorem Literal.emission {t : Text} (h : decode body = .ok t) : Emission body t := by
  have hwritten := written_of_spellsText (decode_eq_ok_iff.1 h)
  constructor
  case decodes => exact h
  case escaped =>
      rintro target rfl
      exact emittable_escape target t
  case kotlin => exact Kotlin.read_written_iff hwritten
  case java => exact Java.read_written_iff hwritten

namespace Verify

variable {limits : Limits} {source : Text} {set : Accessors} {report : Report}

/-- The literals of an accepted set mean the text to the verifier. To a compiler they mean it where
they are emittable, and what the escaper wrote is; but acceptance does not make them so. -/
theorem accessors_ok_emission (h : accessors limits source set = .ok report) :
    ∃ texts, texts.flatten = source ∧
      List.Forall₂ (fun l t => Literal.Emission l.body t) set.literals texts := by
  obtain ⟨texts, haccepted, -⟩ := accessors_eq_ok_iff.1 h
  refine ⟨texts, haccepted.flatten_eq, haccepted.decoded.imp ?_⟩
  intro literal t hdecoded
  exact Literal.emission hdecoded

/-- A quote, a dollar sign and a line feed as they stand, and an escaped form feed. -/
def rawLiteral : Accessors := .direct "body" ⟨0, ['"', '$', '\\', 'f', '\n'], 4, 4⟩

theorem accepted_rawLiteral :
    Accepted Limits.classFile ['"', '$', '\x0c', '\n'] rawLiteral [['"', '$', '\x0c', '\n']] where
  literals_ne_nil := by decide
  isChunked_eq := by decide
  nodup_names := by decide
  numbered := by decide
  decoded := .cons (by decide) .nil
  within := by decide
  flatten_eq := by decide
  isChain := by decide

theorem accessors_rawLiteral :
    accessors Limits.classFile ['"', '$', '\x0c', '\n'] rawLiteral = .ok ⟨1, 4, 4, 4, false⟩ :=
  accessors_eq_ok_iff.2 ⟨_, accepted_rawLiteral, by decide⟩

theorem accessors_ok_emission_rawLiteral :
    accessors Limits.classFile ['"', '$', '\x0c', '\n'] rawLiteral = .ok ⟨1, 4, 4, 4, false⟩ ∧
      ∃ texts, texts.flatten = ['"', '$', '\x0c', '\n'] ∧
        List.Forall₂ (fun l t => Literal.Emission l.body t) rawLiteral.literals texts :=
  ⟨accessors_rawLiteral, accessors_ok_emission accessors_rawLiteral⟩

/-- An accepted literal that neither compiler reads as its text. -/
theorem accessors_ok_not_emittable :
    accessors Limits.classFile ['"', '$', '\x0c', '\n'] rawLiteral = .ok ⟨1, 4, 4, 4, false⟩ ∧
      rawLiteral.literals.map (fun l => lexemes l.body) =
        [[['"'], ['$'], ['\\', 'f'], ['\n']]] ∧
      ∀ target, ∀ l ∈ rawLiteral.literals, ¬ Emittable target l.body :=
  ⟨accessors_rawLiteral, by decide, fun target => by cases target <;> decide⟩

end Verify

end LiteralPack
