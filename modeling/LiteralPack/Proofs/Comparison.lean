import LiteralPack.Proofs.ClassFile
import LiteralPack.Proofs.Encodability

/-!
Two cuts compared. Wider limits never end a fragment earlier, though the fragments of the two cuts
soon stand side by side no more. Under the same limits a text and a longer one that begins with it
are cut alike up to the last fragment of the shorter one, since where a fragment ends depends on no
more of the text than the code point behind it.
-/

namespace LiteralPack

namespace Fragment

variable {texts : List Text} {k : Nat} {f : Fragment}

/-- A fragment stops where the texts up to its own do. -/
theorem stop_of_layOut_getElem? (h : (layOut texts)[k]? = some f) :
    f.stop = (texts.take (k + 1)).flatten.length ∧
      f.byteStop = Text.utf8Size (texts.take (k + 1)).flatten := by
  obtain ⟨before, t, rest, rfl, rfl, rfl⟩ := layOut_getElem?_eq_some_iff.1 h
  rw [List.append_cons, List.take_left' (by simp)]
  simp [behind]

end Fragment

theorem TooWide.IsFirst.append {limits : Limits} {t : Text} {wide : TooWide}
    (h : wide.IsFirst limits t) (behind : Text) : wide.IsFirst limits (t ++ behind) := by
  have hlt : wide.offset < t.length := (List.getElem?_eq_some_iff.1 h.getElem?_offset).1
  refine { h with getElem?_offset := ?_, fits_before := ?_ }
  · rw [List.getElem?_append_left hlt]
    exact h.getElem?_offset
  · rw [List.take_append_of_le_length hlt.le]
    exact h.fits_before

namespace Limits

variable {limits other : Limits} {t a b piece rest : Text} {texts others : List Text}

/-! ### Wider limits -/

/-- Caps within other caps, for sizes that the others do not measure as larger. -/
structure Within (limits other : Limits) : Prop where
  maxLength_le : limits.maxLength ≤ other.maxLength
  maxBytes_le : limits.maxBytes ≤ other.maxBytes
  measure_eq : limits.measure = other.measure ∨
    limits.measure = .modifiedUtf8 ∧ other.measure = .utf8

namespace Within

theorem width_le (h : limits.Within other) (c : Char) : other.width c ≤ limits.width c := by
  rw [width, width]
  obtain heq | ⟨hmodified, hutf8⟩ := h.measure_eq
  · rw [heq]
  · rw [hmodified, hutf8, Measure.width_modifiedUtf8_eq_utf8]
    omega

theorem size_le (h : limits.Within other) (t : Text) : other.size t ≤ limits.size t := by
  induction t with
  | nil => exact Nat.le_refl 0
  | cons c t ih => exact Nat.add_le_add (h.width_le c) ih

theorem admits (h : limits.Within other) (ht : limits.admits t = true) :
    other.admits t = true := by
  rw [admits_iff] at ht ⊢
  exact ⟨(h.size_le t).trans (ht.1.trans h.maxBytes_le), ht.2.trans h.maxLength_le⟩

end Within

/-- However many pieces are counted, those of a cut hold all that a competitor's do. -/
theorem IsCut.stays_ahead (h : IsCut limits t texts) (hcover : others.flatten = t)
    (hfit : ∀ p ∈ others, limits.admits p = true) (k : Nat) :
    (others.take k).flatten <+: (texts.take k).flatten := by
  have hle : (others.take k).flatten.length ≤ (texts.take k).flatten.length := by
    cases h with
    | empty =>
        have htake := (prefix_flatten_take k others).length_le
        rw [hcover] at htake
        exact htake.trans (Nat.zero_le _)
    | greedy _ h => simpa using h.stays_ahead [] hcover hfit k
  refine List.prefix_of_prefix_length_le (hcover ▸ prefix_flatten_take k others) ?_ hle
  exact h.flatten ▸ prefix_flatten_take k texts

/-- Under wider limits a text has no more fragments, and none of them ends in front of its
counterpart. -/
theorem cut_stop_le (h : limits.Within other) (t : Text) {fs : List Fragment}
    (hcut : limits.cut t = .ok fs) :
    ∃ gs, other.cut t = .ok gs ∧ gs.length ≤ fs.length ∧
      ∀ (k : Nat) (g : Fragment), gs[k]? = some g →
        ∃ f, fs[k]? = some f ∧ f.stop ≤ g.stop ∧ f.byteStop ≤ g.byteStop := by
  obtain ⟨others, hothers, rfl⟩ := cut_eq_ok_iff.1 hcut
  have hfit : ∀ p ∈ others, other.admits p = true := fun p hp => h.admits (hothers.admits p hp)
  obtain ⟨texts, htexts, hlength⟩ :=
    exists_isCut_length_le hothers.ne_nil hothers.flatten hfit
  refine ⟨_, cut_eq_ok_iff.2 ⟨texts, htexts, rfl⟩, by simpa using hlength, fun k g hg => ?_⟩
  have hk : k < (Fragment.layOut others).length := by
    have hlt := (List.getElem?_eq_some_iff.1 hg).1
    simp only [Fragment.layOut_length] at hlt ⊢
    omega
  have hf : (Fragment.layOut others)[k]? = some (Fragment.layOut others)[k] :=
    List.getElem?_eq_getElem hk
  have hahead := htexts.stays_ahead hothers.flatten hfit (k + 1)
  obtain ⟨hgstop, hgbyteStop⟩ := Fragment.stop_of_layOut_getElem? hg
  obtain ⟨hfstop, hfbyteStop⟩ := Fragment.stop_of_layOut_getElem? hf
  refine ⟨_, hf, ?_, ?_⟩
  · rw [hfstop, hgstop]
    exact hahead.length_le
  · rw [hfbyteStop, hgbyteStop]
    exact Measure.utf8.size_le_of_infix hahead.isInfix

/-- Limits that are wider than `tight` in either cap and measure less. -/
def loose : Limits where
  maxLength := 4
  maxBytes := 8
  maxLength_pos := Nat.succ_pos 3
  maxBytes_pos := Nat.succ_pos 7

def tightFragments : List Fragment :=
  [⟨0, 0, 3, 0, 4, ['a', '\x00', 'é']⟩, ⟨1, 3, 4, 4, 8, ['😀']⟩, ⟨2, 4, 5, 8, 9, ['b']⟩]

theorem cut_stop_le_mixedWidths :
    tight.Within loose ∧ tight.cut mixedWidths = .ok tightFragments ∧
      ∃ gs, loose.cut mixedWidths = .ok gs ∧ gs.length ≤ tightFragments.length ∧
        ∀ (k : Nat) (g : Fragment), gs[k]? = some g →
          ∃ f, tightFragments[k]? = some f ∧ f.stop ≤ g.stop ∧ f.byteStop ≤ g.byteStop := by
  have hwithin : tight.Within loose := ⟨by decide, by decide, .inr ⟨rfl, rfl⟩⟩
  have hcut : tight.cut mixedWidths = .ok tightFragments := by decide +kernel
  exact ⟨hwithin, hcut, cut_stop_le hwithin mixedWidths hcut⟩

/-! ### Longer texts -/

/-- A piece that leaves something over is the same whatever more there is. -/
theorem longest_append (longest_eq : limits.longest (piece ++ rest) = piece) (hne : rest ≠ [])
    (b : Text) : limits.longest (piece ++ (rest ++ b)) = piece := by
  obtain ⟨c, rest, rfl⟩ := List.exists_cons_of_ne_nil hne
  refine longest_append_eq (longest_eq ▸ limits.admits_longest _) fun d hd => ?_
  obtain rfl : c = d := Option.some_inj.1 hd
  have hfull : limits.longest (piece ++ c :: rest) ++ [c] <+: piece ++ c :: rest := by
    rw [longest_eq]
    exact ⟨rest, by simp⟩
  have hadmits := admits_longest_concat hfull
  rwa [longest_eq] at hadmits

theorem Greedy.append (h : Greedy limits a texts) (h' : Greedy limits (a ++ b) others)
    (hne : a ≠ []) :
    ∃ front p q rest, texts = front ++ [p] ∧ others = front ++ q :: rest ∧ p <+: q := by
  induction h generalizing others with
  | nil => exact absurd rfl hne
  | @cons piece rest texts ne_nil longest_eq tail ih =>
      rw [List.append_assoc] at h'
      by_cases hrest : rest = []
      · -- The last piece can only grow.
        subst hrest
        obtain rfl := tail.eq_nil_iff.2 rfl
        have hpiece : limits.admits piece = true := longest_eq ▸ limits.admits_longest _
        have hgrown : piece <+: limits.longest (piece ++ ([] ++ b)) :=
          prefix_longest (List.prefix_append piece _) hpiece
        have hgrown_ne : limits.longest (piece ++ ([] ++ b)) ≠ [] := fun hnil =>
          ne_nil (List.prefix_nil.1 (hnil ▸ hgrown))
        obtain ⟨behind, rfl, -⟩ := (Greedy.iff_of_longest_eq rfl hgrown_ne).1 h'
        exact ⟨[], piece, _, behind, rfl, rfl, hgrown⟩
      · have hlongest := longest_append longest_eq hrest b
        obtain ⟨others, rfl, htail⟩ := (Greedy.iff_of_longest_eq hlongest ne_nil).1 h'
        rw [List.drop_left] at htail
        obtain ⟨front, p, q, behind, rfl, rfl, hpq⟩ := ih htail hrest
        exact ⟨piece :: front, p, q, behind, rfl, rfl, hpq⟩

theorem IsCut.append (h : IsCut limits a texts) (h' : IsCut limits (a ++ b) others) :
    ∃ front p q rest, texts = front ++ [p] ∧ others = front ++ q :: rest ∧ p <+: q := by
  cases h with
  | empty =>
      obtain ⟨q, rest, rfl⟩ := List.exists_cons_of_ne_nil h'.ne_nil
      exact ⟨[], [], q, rest, rfl, rfl, List.nil_prefix⟩
  | greedy ne_nil h =>
      generalize hab : a ++ b = ab at h'
      cases h' with
      | empty => exact absurd (List.append_eq_nil_iff.1 hab).1 ne_nil
      | greedy _ h' =>
          subst hab
          exact h.append h' ne_nil

/-- What refuses the beginning of a text refuses the text. Where both can be cut, their fragments
are the same except for the last one of the beginning, which the text may continue. -/
theorem cut_append (limits : Limits) (a b : Text) :
    (∀ wide, limits.cut a = .error wide → limits.cut (a ++ b) = .error wide) ∧
      ∀ fs gs, limits.cut a = .ok fs → limits.cut (a ++ b) = .ok gs →
        ∃ front f g rest, fs = front ++ [f] ∧ gs = front ++ g :: rest ∧ f.text <+: g.text := by
  refine ⟨fun wide h => ?refused, fun fs gs hfs hgs => ?cut⟩
  case refused =>
    rw [cut_eq_error_iff] at h ⊢
    exact h.append b
  case cut =>
    obtain ⟨texts, htexts, rfl⟩ := cut_eq_ok_iff.1 hfs
    obtain ⟨others, hothers, rfl⟩ := cut_eq_ok_iff.1 hgs
    obtain ⟨front, p, q, rest, rfl, rfl, hpq⟩ := htexts.append hothers
    rw [Fragment.layOut_eq_layBehind, Fragment.layOut_eq_layBehind, Fragment.layBehind_append,
      Fragment.layBehind_append]
    exact ⟨_, _, _, _, rfl, rfl, hpq⟩

/-- What becomes of `tightFragments` when another letter follows. -/
def grownFragments : List Fragment :=
  [⟨0, 0, 3, 0, 4, ['a', '\x00', 'é']⟩, ⟨1, 3, 4, 4, 8, ['😀']⟩, ⟨2, 4, 6, 8, 10, ['b', 'c']⟩]

theorem cut_append_mixedWidths :
    Encoder.narrower.cut Encoder.twoFaces = .error ⟨4, '😀', 6, 3⟩ ∧
      Encoder.narrower.cut (Encoder.twoFaces ++ mixedWidths) = .error ⟨4, '😀', 6, 3⟩ ∧
      tight.cut mixedWidths = .ok tightFragments ∧
      tight.cut (mixedWidths ++ ['c']) = .ok grownFragments ∧
      ∃ front f g rest, tightFragments = front ++ [f] ∧ grownFragments = front ++ g :: rest ∧
        f.text <+: g.text := by
  have hrefused : Encoder.narrower.cut Encoder.twoFaces = .error ⟨4, '😀', 6, 3⟩ := by
    decide +kernel
  have hcut : tight.cut mixedWidths = .ok tightFragments := by decide +kernel
  have hgrown : tight.cut (mixedWidths ++ ['c']) = .ok grownFragments := by decide +kernel
  exact ⟨hrefused, (cut_append _ _ _).1 _ hrefused, hcut, hgrown,
    (cut_append _ _ _).2 _ _ hcut hgrown⟩

end Limits

end LiteralPack
