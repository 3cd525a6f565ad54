import Mathlib.Algebra.GroupWithZero.Nat
import LiteralPack.Proofs.Encoded

/-!
Texts as constants of a class file, which is made of UTF-16 units: its length counts units, and each
unit takes one to three bytes. The modified UTF-8 of a text is as large as its constant. The
length cap counts code points; under the ceilings of a class file the size cap makes up for the
difference, since a code point that takes a second unit takes three more bytes.
-/

namespace LiteralPack

namespace Utf16

/-- Whether a code point takes two units. -/
def isSupplementary (c : Char) : Bool := 0xFFFF < c.toNat

theorem units_of_isSupplementary {c : Char} (h : isSupplementary c = true) :
    units c = [0xD800 + (c.toNat - 0x10000) / 0x400, 0xDC00 + (c.toNat - 0x10000) % 0x400] := by
  have hc := of_decide_eq_true h
  exact if_neg (by omega)

theorem units_of_not_isSupplementary {c : Char} (h : isSupplementary c = false) :
    units c = [c.toNat] := by
  have hc := of_decide_eq_false h
  exact units_of_lt (by omega)

theorem length_flatMap_units (t : Text) :
    (t.flatMap units).length = t.length + t.countP isSupplementary := by
  induction t with
  | nil => rfl
  | cons c t ih =>
      rw [List.flatMap_cons, List.length_append, ih, List.length_cons]
      cases hc : isSupplementary c with
      | false =>
          rw [units_of_not_isSupplementary hc, List.countP_cons_of_neg (by simp [hc])]
          simp only [List.length_singleton]
          omega
      | true =>
          rw [units_of_isSupplementary hc, List.countP_cons_of_pos hc]
          simp only [List.length_cons, List.length_nil]
          omega

end Utf16

namespace ClassFile

/-- The bytes that a unit takes in a constant. -/
def unitSize (u : Nat) : Nat :=
  if 0x0001 ≤ u ∧ u ≤ 0x007F then 1
  else if u = 0x0000 ∨ 0x0080 ≤ u ∧ u ≤ 0x07FF then 2
  else 3

/-- The bytes that a text takes as a constant. -/
def size (t : Text) : Nat := ((t.flatMap Utf16.units).map unitSize).sum

@[simp] theorem size_cons (c : Char) (t : Text) :
    size (c :: t) = ((Utf16.units c).map unitSize).sum + size t := by
  simp [size]

theorem unitSize_of_le {u : Nat} (h : 0x0800 ≤ u) : unitSize u = 3 := by
  unfold unitSize
  rw [if_neg (by omega), if_neg (by omega)]

end ClassFile

namespace Measure

theorem width_utf8 (c : Char) : Measure.utf8.width c =
    if c.toNat ≤ 0x7F then 1 else if c.toNat ≤ 0x7FF then 2 else if c.toNat ≤ 0xFFFF then 3
      else 4 := rfl

theorem width_utf8_of_isSupplementary {c : Char} (h : Utf16.isSupplementary c = true) :
    Measure.utf8.width c = 4 := by
  have hc := of_decide_eq_true h
  rw [width_utf8, if_neg (by omega), if_neg (by omega), if_neg (by omega)]

/-- The measures differ on U+0000 and on code points that take two units. -/
theorem width_modifiedUtf8_eq_utf8 (c : Char) :
    Measure.modifiedUtf8.width c = Measure.utf8.width c + (if c == '\x00' then 1 else 0) +
      2 * (if Utf16.isSupplementary c then 1 else 0) := by
  by_cases hnul : c = '\x00'
  · subst hnul
    rfl
  · rw [if_neg (by simpa using hnul)]
    cases hc : Utf16.isSupplementary c with
    | true =>
        rw [width_utf8_of_isSupplementary hc]
        simp only [width, if_neg hnul, if_pos (of_decide_eq_true hc), if_true]
    | false => simp [width, if_neg hnul, if_neg (of_decide_eq_false hc)]

theorem width_modifiedUtf8_eq_classFile (c : Char) :
    Measure.modifiedUtf8.width c = ((Utf16.units c).map ClassFile.unitSize).sum := by
  rw [width_modifiedUtf8_eq_utf8]
  cases hc : Utf16.isSupplementary c with
  | true =>
      have hnul : ¬ (c == '\x00') = true := by
        rw [beq_iff_eq]
        rintro rfl
        exact absurd hc (by decide)
      rw [if_neg hnul, width_utf8_of_isSupplementary hc, Utf16.units_of_isSupplementary hc,
        List.map_cons, List.map_singleton, ClassFile.unitSize_of_le (by omega),
        ClassFile.unitSize_of_le (by omega)]
      rfl
  | false =>
      have hle := of_decide_eq_false hc
      have hnul : c = '\x00' ↔ c.toNat = 0 := (Char.toNat_inj (d := '\x00')).symm
      rw [Utf16.units_of_not_isSupplementary hc, List.map_singleton, List.sum_singleton,
        width_utf8, ClassFile.unitSize]
      simp only [beq_iff_eq, hnul, Bool.false_eq_true, if_false]
      split_ifs <;> omega

theorem size_modifiedUtf8_eq_classFile (t : Text) :
    Measure.modifiedUtf8.size t = ClassFile.size t := by
  induction t with
  | nil => rfl
  | cons c t ih => rw [size_cons, ClassFile.size_cons, ih, width_modifiedUtf8_eq_classFile]

theorem size_modifiedUtf8_eq_utf8 (t : Text) :
    Measure.modifiedUtf8.size t =
      Measure.utf8.size t + t.count '\x00' + 2 * t.countP Utf16.isSupplementary := by
  induction t with
  | nil => rfl
  | cons c t ih =>
      rw [size_cons, size_cons, ih, width_modifiedUtf8_eq_utf8, List.count_cons, List.countP_cons]
      omega

theorem size_replicate (m : Measure) (n : Nat) (c : Char) :
    m.size (List.replicate n c) = n * m.width c := by
  induction n with
  | zero => simp
  | succ n ih => rw [List.replicate_succ, size_cons, ih, Nat.succ_mul, Nat.add_comm]

/-- Whatever the measure, a code point that takes a second unit takes three more bytes. -/
theorem one_add_le_width (m : Measure) (c : Char) :
    1 + 3 * (if Utf16.isSupplementary c then 1 else 0) ≤ m.width c := by
  have hutf8 : 1 + 3 * (if Utf16.isSupplementary c then 1 else 0) ≤ Measure.utf8.width c := by
    cases hc : Utf16.isSupplementary c with
    | true => exact (width_utf8_of_isSupplementary hc).ge
    | false => exact Measure.utf8.width_pos c
  cases m with
  | utf8 => exact hutf8
  | modifiedUtf8 =>
      rw [width_modifiedUtf8_eq_utf8]
      omega

theorem length_add_le_size (m : Measure) (t : Text) :
    t.length + 3 * t.countP Utf16.isSupplementary ≤ m.size t := by
  induction t with
  | nil => exact Nat.le_refl 0
  | cons c t ih =>
      have hc := m.one_add_le_width c
      rw [List.length_cons, List.countP_cons, size_cons]
      omega

end Measure

namespace Limits

/-! ### Limits that see a text alike -/

/-- Limits with the same caps, to which no code point of a text is wider than to the others. -/
structure AlikeOn (limits other : Limits) (t : Text) : Prop where
  maxLength_eq : limits.maxLength = other.maxLength
  maxBytes_eq : limits.maxBytes = other.maxBytes
  width_eq : ∀ c ∈ t, limits.width c = other.width c

namespace AlikeOn

variable {limits other : Limits} {s t : Text}

theorem mono (h : AlikeOn limits other t) (hs : s ⊆ t) : AlikeOn limits other s where
  maxLength_eq := h.maxLength_eq
  maxBytes_eq := h.maxBytes_eq
  width_eq c hc := h.width_eq c (hs hc)

theorem size_eq (h : AlikeOn limits other t) : limits.size t = other.size t := by
  induction t with
  | nil => rfl
  | cons c t ih =>
      have hc := h.width_eq c List.mem_cons_self
      have ht := ih (h.mono (List.subset_cons_self c t))
      exact congrArg₂ (· + ·) hc ht

theorem retract_eq (h : AlikeOn limits other t) (size : Nat) :
    limits.retract t size = other.retract t size := by
  induction t generalizing size with
  | nil => rfl
  | cons c t ih =>
      have hc := h.width_eq c List.mem_cons_self
      have ht := ih (h.mono (List.subset_cons_self c t))
      rw [retract, retract, h.maxBytes_eq, hc, ht]

theorem longest_eq (h : AlikeOn limits other t) : limits.longest t = other.longest t := by
  have hproposal : limits.proposal t = other.proposal t := by
    rw [proposal, proposal, h.maxLength_eq, h.maxBytes_eq]
  have hheld : other.proposal t ⊆ t := List.take_subset _ t
  have hreversed : (other.proposal t).reverse ⊆ t := fun c hc => hheld (List.mem_reverse.1 hc)
  rw [longest, longest, hproposal, (h.mono hheld).size_eq, (h.mono hreversed).retract_eq]

theorem pieces_eq (h : AlikeOn limits other t) (offset : Nat) (cut : List Text) :
    limits.pieces offset cut t = other.pieces offset cut t := by
  fun_induction limits.pieces offset cut t with
  | case1 => rw [pieces]
  | case2 offset cut c rest hnil =>
      have hc := h.width_eq c List.mem_cons_self
      rw [h.longest_eq] at hnil
      rw [pieces, hnil, h.maxBytes_eq, hc]
  | case3 offset cut c rest d piece hpiece ih =>
      have hrest : rest.drop piece.length ⊆ c :: rest := fun x hx =>
        List.mem_cons_of_mem c (List.mem_of_mem_drop hx)
      rw [h.longest_eq] at hpiece
      rw [ih (h.mono hrest)]
      conv_rhs => rw [pieces, hpiece]

theorem cut_eq (h : AlikeOn limits other t) : limits.cut t = other.cut t := by
  rw [cut, cut, h.pieces_eq]

end AlikeOn

end Limits

theorem Encoder.admits_of_encode {e : Encoder} {accessor : String} {t : Text} {set : Accessors}
    (h : e.encode accessor t = .ok set) {l : Literal} (hl : l ∈ set.literals) :
    ∃ s, Literal.decode l.body = .ok s ∧ e.limits.admits s = true := by
  obtain ⟨texts, hcut, rfl⟩ := encode_eq_ok_iff.1 h
  have haccepted := hcut.accepted e.target e.partPrefix accessor
  have hmem : Literal.decode l.body ∈ texts.map .ok := by
    rw [← haccepted.map_decode]
    exact List.mem_map_of_mem hl
  obtain ⟨s, hs, hdecode⟩ := List.mem_map.1 hmem
  exact ⟨s, hdecode.symm, haccepted.within s hs⟩

/-- The modified UTF-8 of a text is as large as its constant. So under this measure every literal
of an encoder stands for a constant within the byte ceiling; and the measure matters only to
texts with U+0000 or with code points that take two units. -/
theorem Measure.modifiedUtf8_exact (t : Text) :
    Measure.modifiedUtf8.size t = ClassFile.size t ∧
    Measure.modifiedUtf8.size t =
      Measure.utf8.size t + t.count '\x00' + 2 * t.countP (0xFFFF < ·.toNat) ∧
    (∀ (e : Encoder) (accessor : String) (set : Accessors),
      e.limits.measure = .modifiedUtf8 → e.limits.maxBytes ≤ 65535 →
      e.encode accessor t = .ok set →
      ∀ l ∈ set.literals, ∃ s, Literal.decode l.body = .ok s ∧ ClassFile.size s ≤ 65535) ∧
    ((∀ c ∈ t, c ≠ '\x00' ∧ c.toNat ≤ 0xFFFF) → ∀ limits : Limits,
      ({ limits with measure := .modifiedUtf8 } : Limits).cut t =
        ({ limits with measure := .utf8 } : Limits).cut t) := by
  refine ⟨size_modifiedUtf8_eq_classFile t, size_modifiedUtf8_eq_utf8 t, ?encoded, ?alike⟩
  case encoded =>
    intro e accessor set hmeasure hbytes hencode l hl
    obtain ⟨s, hdecode, hadmits⟩ := Encoder.admits_of_encode hencode hl
    have hsize : Measure.modifiedUtf8.size s ≤ e.limits.maxBytes := by
      rw [← hmeasure]
      exact ((e.limits.admits_iff s).1 hadmits).1
    refine ⟨s, hdecode, ?_⟩
    rw [← size_modifiedUtf8_eq_classFile]
    exact hsize.trans hbytes
  case alike =>
    intro hplain limits
    apply Limits.AlikeOn.cut_eq
    refine ⟨rfl, rfl, fun c hc => ?_⟩
    obtain ⟨hnul, hle⟩ := hplain c hc
    have hc : Utf16.isSupplementary c = false := decide_eq_false (Nat.not_lt.2 hle)
    change Measure.modifiedUtf8.width c = Measure.utf8.width c
    rw [width_modifiedUtf8_eq_utf8, hc, if_neg (by simpa using hnul)]
    rfl

/-- What is made of `Limits.mixedWidths` under `Limits.tight`. -/
def mixedParts : Accessors :=
  .chunked "body"
    [⟨"body0", ⟨0, "a\\u0000\\u00E9".toList, 3, 4⟩⟩, ⟨"body1", ⟨1, "\\uD83D\\uDE00".toList, 1, 4⟩⟩,
      ⟨"body2", ⟨2, "b".toList, 1, 1⟩⟩]

theorem Measure.modifiedUtf8_exact_mixedWidths :
    tightKotlin.limits.measure = .modifiedUtf8 ∧ tightKotlin.limits.maxBytes ≤ 65535 ∧
      tightKotlin.encode "body" Limits.mixedWidths = .ok mixedParts ∧
      (∀ l ∈ mixedParts.literals, ∃ s, Literal.decode l.body = .ok s ∧ ClassFile.size s ≤ 65535) ∧
      (∀ c ∈ ['a', 'é', '€', 'ß'], c ≠ '\x00' ∧ c.toNat ≤ 0xFFFF) ∧
      Limits.tight.cut ['a', 'é', '€', 'ß'] =
        ({ Limits.tight with measure := .utf8 } : Limits).cut ['a', 'é', '€', 'ß'] := by
  have hencode : tightKotlin.encode "body" Limits.mixedWidths = .ok mixedParts := by
    decide +kernel
  have hplain : ∀ c ∈ ['a', 'é', '€', 'ß'], c ≠ '\x00' ∧ c.toNat ≤ 0xFFFF := by
    simp
  obtain ⟨-, -, hencoded, -⟩ := modifiedUtf8_exact Limits.mixedWidths
  obtain ⟨-, -, -, halike⟩ := modifiedUtf8_exact ['a', 'é', '€', 'ß']
  exact ⟨rfl, by decide, hencode, hencoded tightKotlin "body" mixedParts rfl (by decide) hencode,
    hplain, halike hplain Limits.tight⟩

/-! ### Units -/

namespace Limits

variable {limits : Limits} {t p : Text}

/-- Two bytes of slack are made up for by the first code point that takes a second unit. -/
theorem length_units_le (hcaps : limits.maxBytes ≤ limits.maxLength + 2)
    (h : limits.admits p = true) : (p.flatMap Utf16.units).length ≤ limits.maxLength := by
  obtain ⟨hsize, hlength⟩ := (limits.admits_iff p).1 h
  have hweight := limits.measure.length_add_le_size p
  rw [size] at hsize
  rw [Utf16.length_flatMap_units]
  -- Without such a code point the length cap decides, with one the size cap does.
  rcases Nat.eq_zero_or_pos (p.countP Utf16.isSupplementary) with hnone | hsome
  · omega
  · omega

/-- When UTF-8 is measured, a third byte of slack is one too many. -/
theorem forall_length_units_le_iff (hmeasure : limits.measure = .utf8) :
    (∀ p, limits.admits p = true → (p.flatMap Utf16.units).length ≤ limits.maxLength) ↔
      limits.maxBytes ≤ limits.maxLength + 2 := by
  refine ⟨fun h => ?_, fun hcaps _ => length_units_le hcaps⟩
  by_contra hcaps
  -- As many code points as there may be, of which only the last takes a second unit.
  let p : Text := List.replicate (limits.maxLength - 1) 'a' ++ ['😀']
  have hpos := limits.maxLength_pos
  have hlength : p.length = limits.maxLength := by
    rw [List.length_append, List.length_replicate, List.length_singleton]
    omega
  have hsize : limits.size p = limits.maxLength - 1 + 4 := by
    rw [size, hmeasure, Measure.size_append, Measure.size_replicate]
    exact congrArg (· + 4) (Nat.mul_one _)
  have hcount : p.countP Utf16.isSupplementary = 1 := by
    rw [List.countP_append, List.countP_replicate]
    rfl
  have hunits := h p ((limits.admits_iff p).2 (by omega))
  rw [Utf16.length_flatMap_units] at hunits
  omega

/-- Under caps like those of a class file no fragment has more units than it may have code points,
whichever the measure. -/
theorem units_le_of_cut :
    (∀ (limits : Limits) (t : Text) (fs : List Fragment),
      limits.maxBytes ≤ limits.maxLength + 2 → limits.cut t = .ok fs →
      ∀ f ∈ fs, (f.text.flatMap Utf16.units).length ≤ limits.maxLength) ∧
    ∀ (m : Measure) (t : Text) (fs : List Fragment),
      ({ classFile with measure := m } : Limits).cut t = .ok fs →
      ∀ f ∈ fs, (f.text.flatMap Utf16.units).length ≤ 65534 := by
  have hunits : ∀ (limits : Limits) (t : Text) (fs : List Fragment),
      limits.maxBytes ≤ limits.maxLength + 2 → limits.cut t = .ok fs →
      ∀ f ∈ fs, (f.text.flatMap Utf16.units).length ≤ limits.maxLength :=
    fun limits t fs hcaps hcut f hf => length_units_le hcaps (admits_of_cut hcut f hf)
  have hclassFile : classFile.maxBytes ≤ classFile.maxLength + 2 := by decide
  exact ⟨hunits, fun m t fs => hunits { classFile with measure := m } t fs hclassFile⟩

/-- As many bytes more than code points as units can make up for. -/
def slack : Limits where
  maxLength := 5
  maxBytes := 7
  maxLength_pos := by decide
  maxBytes_pos := by decide

def slackCut : List Fragment :=
  [⟨0, 0, 3, 0, 6, ['a', '😀', 'b']⟩, ⟨1, 3, 5, 6, 11, ['😀', 'c']⟩]

theorem units_le_of_cut_slack :
    slack.maxBytes ≤ slack.maxLength + 2 ∧
      slack.cut ['a', '😀', 'b', '😀', 'c'] = .ok slackCut ∧
      (∀ f ∈ slackCut, (f.text.flatMap Utf16.units).length ≤ slack.maxLength) ∧
      ({ classFile with measure := .modifiedUtf8 } : Limits).cut ['a', '😀', 'b'] =
        .ok (slackCut.take 1) ∧
      ∀ f ∈ slackCut.take 1, (f.text.flatMap Utf16.units).length ≤ 65534 := by
  have hcaps : slack.maxBytes ≤ slack.maxLength + 2 := by decide
  have hcut : slack.cut ['a', '😀', 'b', '😀', 'c'] = .ok slackCut := by decide +kernel
  have hclassFile : ({ classFile with measure := .modifiedUtf8 } : Limits).cut ['a', '😀', 'b'] =
      .ok (slackCut.take 1) := by
    decide +kernel
  obtain ⟨hunits, hceiling⟩ := units_le_of_cut
  exact ⟨hcaps, hcut, hunits slack _ slackCut hcaps hcut, hclassFile, hceiling _ _ _ hclassFile⟩

end Limits

end LiteralPack
