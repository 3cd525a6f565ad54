import Mathlib.Data.Nat.Basic
import LiteralPack.Literal.Decode
import LiteralPack.Literal.Escape

/-!
What a body looks like character by character, whatever the target: a letter behind a backslash,
a printable character as it is, or unit escapes. Bodies are printable ASCII, and decoding reads
the text back.
-/

namespace LiteralPack

namespace Hex

variable {a b c d : Char} {n u : Nat}

theorem value?_lt (h : value? c = some n) : n < 16 := by
  unfold value? at h
  split_ifs at h with hdecimal hupper hlower <;> cases h
  · have hle : c.toNat ≤ 57 := Char.le_def.1 hdecimal.2
    omega
  · have hle : c.toNat ≤ 70 := Char.le_def.1 hupper.2
    omega
  · have hle : c.toNat ≤ 102 := Char.le_def.1 hlower.2
    omega

theorem readFour?_eq_some_iff : readFour? a b c d = some u ↔ ∃ i j k l,
    value? a = some i ∧ value? b = some j ∧ value? c = some k ∧ value? d = some l ∧
      4096 * i + 256 * j + 16 * k + l = u := by
  simp [readFour?, Option.bind_eq_some_iff]

theorem readFour?_lt (h : readFour? a b c d = some u) : u < 0x10000 := by
  obtain ⟨i, j, k, l, hi, hj, hk, hl, rfl⟩ := readFour?_eq_some_iff.1 h
  have hi := value?_lt hi
  have hj := value?_lt hj
  have hk := value?_lt hk
  have hl := value?_lt hl
  omega

theorem ne_of_readFour? (h : readFour? a b c d = some u) : a ≠ 'u' ∧ d ≠ '\\' := by
  obtain ⟨i, j, k, l, hi, -, -, hl, -⟩ := readFour?_eq_some_iff.1 h
  constructor
  · rintro rfl
    cases hi
  · rintro rfl
    cases hl

end Hex

namespace Utf16

theorem lt_of_mem_units {c : Char} {u : Nat} (h : u ∈ units c) : u < 0x10000 := by
  have hc := toNat_lt c
  unfold units at h
  split at h
  · rw [List.mem_singleton] at h
    omega
  · simp only [List.mem_cons, List.not_mem_nil, or_false] at h
    omega

theorem units_of_lt {c : Char} (h : c.toNat < 0x10000) : units c = [c.toNat] := if_pos h

/-- A unit below the surrogates belongs to one code point only. -/
theorem eq_of_mem_units {c d : Char} (hd : d.toNat < 0xD800) (h : d.toNat ∈ units c) : c = d := by
  unfold units at h
  split at h
  · rw [List.mem_singleton] at h
    exact (Char.toNat_inj.1 h).symm
  · simp only [List.mem_cons, List.not_mem_nil, or_false] at h
    omega

/-! ### Units put back together -/

variable {u lead tail : Nat}

theorem toNat_ofNat (h : u.isValidChar) : (Char.ofNat u).toNat = u := by
  rw [Char.ofNat, dif_pos h]
  rfl

theorem toNat_ofNat_unit (hu : u < 0x10000) (hhigh : isHigh u = false) (hlow : isLow u = false) :
    (Char.ofNat u).toNat = u := by
  simp only [isHigh, isLow, Bool.and_eq_false_iff, decide_eq_false_iff_not] at hhigh hlow
  exact toNat_ofNat (by unfold Nat.isValidChar; omega)

theorem toNat_join (hhigh : isHigh lead = true) (hlow : isLow tail = true) :
    (join lead tail).toNat = 0x10000 + (lead - 0xD800) * 0x400 + (tail - 0xDC00) := by
  simp only [isHigh, isLow, Bool.and_eq_true, decide_eq_true_eq] at hhigh hlow
  exact toNat_ofNat (by unfold Nat.isValidChar; omega)

theorem units_ofNat (hu : u < 0x10000) (hhigh : isHigh u = false) (hlow : isLow u = false) :
    units (Char.ofNat u) = [u] := by
  have htoNat := toNat_ofNat_unit hu hhigh hlow
  rw [units_of_lt (htoNat.symm ▸ hu), htoNat]

theorem units_join (hhigh : isHigh lead = true) (hlow : isLow tail = true) :
    units (join lead tail) = [lead, tail] := by
  have htoNat := toNat_join hhigh hlow
  simp only [isHigh, isLow, Bool.and_eq_true, decide_eq_true_eq] at hhigh hlow
  have hlead : 0xD800 + ((join lead tail).toNat - 0x10000) / 0x400 = lead := by omega
  have htail : 0xDC00 + ((join lead tail).toNat - 0x10000) % 0x400 = tail := by omega
  rw [units, if_neg (by omega), hlead, htail]

end Utf16

namespace Literal

variable {target : Target} {c letter : Char}

def Printable (c : Char) : Prop := ' ' ≤ c ∧ c ≤ '~'

instance : DecidablePred Printable := fun c => inferInstanceAs (Decidable (' ' ≤ c ∧ c ≤ '~'))

theorem Printable.toNat_lt (h : Printable c) : c.toNat < 0x7F :=
  Nat.lt_succ_of_le (Char.le_def.1 h.2)

/-! ### Characters with a letter of their own -/

theorem meaning?_of_letter? (h : letter? target c = some letter) : meaning? letter = some c := by
  unfold letter? at h
  split at h <;> cases h <;> rfl

theorem ne_u_of_meaning? (h : meaning? letter = some c) : letter ≠ 'u' := by
  rintro rfl
  cases h

theorem ne_u_of_letter? (h : letter? target c = some letter) : letter ≠ 'u' :=
  ne_u_of_meaning? (meaning?_of_letter? h)

theorem printable_of_letter? (h : letter? target c = some letter) : Printable letter := by
  unfold letter? at h
  split at h <;> cases h <;> decide

theorem ne_of_letter?_eq_none (h : letter? target c = none) :
    c ≠ '"' ∧ c ≠ '\\' ∧ c ≠ '\n' ∧ c ≠ '\r' := by
  refine ⟨?_, ?_, ?_, ?_⟩ <;> rintro rfl <;> cases target <;> cases h

/-! ### The three forms of an escape -/

inductive EscapeForm (target : Target) (c : Char) : Text → Prop
  | letter {letter : Char} (h : letter? target c = some letter) : EscapeForm target c ['\\', letter]
  | plain (h : letter? target c = none) (hc : Printable c) : EscapeForm target c [c]
  | units (h : letter? target c = none) : EscapeForm target c ((Utf16.units c).flatMap unitEscape)

theorem escapeForm (target : Target) (c : Char) : EscapeForm target c (escapeChar target c) := by
  cases h : letter? target c with
  | some letter =>
      have hbody : escapeChar target c = ['\\', letter] := by rw [escapeChar, h]
      rw [hbody]
      exact .letter h
  | none =>
      have hbody : escapeChar target c =
          if Printable c then [c] else (Utf16.units c).flatMap unitEscape := by
        rw [escapeChar, h]
        rfl
      rw [hbody]
      split
      next hc => exact .plain h hc
      next => exact .units h

theorem printable_digit : ∀ n < 16, Printable (Hex.digit n) := by decide

theorem printable_unitEscape (u : Nat) : ∀ c ∈ unitEscape u, Printable c := by
  intro c hc
  simp only [unitEscape, Hex.four, List.mem_cons, List.not_mem_nil, or_false] at hc
  rcases hc with rfl | rfl | rfl | rfl | rfl | rfl
  · decide
  · decide
  all_goals exact printable_digit _ (Nat.mod_lt _ (by decide))

theorem printable_escapeChar (target : Target) (c : Char) :
    ∀ d ∈ escapeChar target c, Printable d := by
  have hform := escapeForm target c
  generalize escapeChar target c = body at hform ⊢
  intro d hd
  cases hform with
  | letter h =>
      rw [List.mem_cons, List.mem_singleton] at hd
      rcases hd with rfl | rfl
      · decide
      · exact printable_of_letter? h
  | plain h hc =>
      rw [List.mem_singleton] at hd
      exact hd ▸ hc
  | units h =>
      obtain ⟨u, -, hu⟩ := List.mem_flatMap.1 hd
      exact printable_unitEscape u d hu

theorem printable_escape (target : Target) (t : Text) : ∀ c ∈ escape target t, Printable c := by
  intro c hc
  obtain ⟨d, -, hd⟩ := List.mem_flatMap.1 hc
  exact printable_escapeChar target d c hd

/-! ### Reading a body back -/

theorem decodeFrom_letter (decoded rest : Text) (hu : letter ≠ 'u')
    (h : meaning? letter = some c) :
    decodeFrom none decoded ('\\' :: letter :: rest) = decodeFrom none (c :: decoded) rest := by
  simp [decodeFrom, hu, h]

theorem decodeFrom_plain (decoded rest : Text) (hc : c ≠ '\\') :
    decodeFrom none decoded (c :: rest) = decodeFrom none (c :: decoded) rest := by
  simp [decodeFrom, hc]

theorem decodeFrom_unitEscape (high : Option Nat) (decoded rest : Text) {u : Nat}
    (hu : u < 0x10000) :
    decodeFrom high decoded (unitEscape u ++ rest) =
      match high with
      | none =>
        if Utf16.isHigh u then decodeFrom (some u) decoded rest
        else if Utf16.isLow u then .error (.loneSurrogate u)
        else decodeFrom none (Char.ofNat u :: decoded) rest
      | some lead =>
        if Utf16.isLow u then decodeFrom none (Utf16.join lead u :: decoded) rest
        else .error (.loneSurrogate lead) := by
  cases high <;>
    simp only [unitEscape, Hex.four, List.cons_append, List.nil_append, decodeFrom,
      Hex.readFour?_four u hu]

/-- The units of a code point stand for it, also where they are a surrogate pair. -/
theorem decodeFrom_units (decoded rest : Text) (c : Char) :
    decodeFrom none decoded ((Utf16.units c).flatMap unitEscape ++ rest) =
      decodeFrom none (c :: decoded) rest := by
  by_cases hc : c.toNat < 0x10000
  · -- No code point is a surrogate, so a single unit never waits for a second one.
    have hvalid := c.valid
    have hsurrogate : ¬ (0xD800 ≤ c.toNat ∧ c.toNat < 0xE000) := by
      simp only [UInt32.isValidChar, Nat.isValidChar] at hvalid
      simp only [Char.toNat]
      omega
    have hhigh : Utf16.isHigh c.toNat = false := by
      simp only [Utf16.isHigh, Bool.and_eq_false_iff, decide_eq_false_iff_not]
      omega
    have hlow : Utf16.isLow c.toNat = false := by
      simp only [Utf16.isLow, Bool.and_eq_false_iff, decide_eq_false_iff_not]
      omega
    rw [Utf16.units_of_lt hc, List.flatMap_singleton, decodeFrom_unitEscape _ _ _ hc]
    simp only [hhigh, hlow, Bool.false_eq_true, if_false, Char.ofNat_toNat]
  · have hge : 0x10000 ≤ c.toNat := Nat.le_of_not_lt hc
    have hhigh := Utf16.isHigh_units c hge
    have hlow := Utf16.isLow_units c
    have hlt : ∀ u ∈ Utf16.units c, u < 0x10000 := fun u => Utf16.lt_of_mem_units
    simp only [Utf16.units, hc, if_false, List.forall_mem_cons] at hlt
    simp only [Utf16.units, hc, if_false, List.flatMap_cons, List.flatMap_nil, List.append_nil,
      List.append_assoc, decodeFrom_unitEscape _ _ _ hlt.1, decodeFrom_unitEscape _ _ _ hlt.2.1,
      hhigh, hlow, if_true, Utf16.join_units c hge]

theorem decodeFrom_escapeChar (target : Target) (c : Char) (decoded rest : Text) :
    decodeFrom none decoded (escapeChar target c ++ rest) =
      decodeFrom none (c :: decoded) rest := by
  have hform := escapeForm target c
  generalize escapeChar target c = body at hform ⊢
  cases hform with
  | letter h => exact decodeFrom_letter decoded rest (ne_u_of_letter? h) (meaning?_of_letter? h)
  | plain h hc => exact decodeFrom_plain decoded rest (ne_of_letter?_eq_none h).2.1
  | units h => exact decodeFrom_units decoded rest c

theorem decodeFrom_escape (target : Target) (t decoded rest : Text) :
    decodeFrom none decoded (escape target t ++ rest) =
      decodeFrom none (t.reverse ++ decoded) rest := by
  induction t generalizing decoded with
  | nil => rfl
  | cons c t ih =>
      rw [escape_cons, List.append_assoc, decodeFrom_escapeChar, ih, List.reverse_cons,
        List.append_assoc, List.singleton_append]

theorem decode_escape (target : Target) (t : Text) : decode (escape target t) = .ok t := by
  have h := decodeFrom_escape target t [] []
  rw [List.append_nil, List.append_nil, decodeFrom, List.reverse_reverse] at h
  exact h

end Literal

end LiteralPack
