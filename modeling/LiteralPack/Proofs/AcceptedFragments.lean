import LiteralPack.Audit
import LiteralPack.Proofs.Acceptance
import LiteralPack.Proofs.Layout
import LiteralPack.Verify.Fragments

/-!
What the verifier of a list of fragments accepts. It holds the texts against the source and the
limits and the spans against each other, but no span against its text: accepted fragments lie where
they say exactly if each span is as long as the text it carries.
-/

namespace LiteralPack

namespace Fragment

/-- Where one fragment stops the next one starts, in code points and in bytes. -/
def Abuts (f next : Fragment) : Prop := next.start = f.stop ∧ next.byteStart = f.byteStop

/-- Both spans are as long as the text. -/
def Measured (f : Fragment) : Prop :=
  f.stop = f.start + f.text.length ∧ f.byteStop = f.byteStart + f.text.utf8Size

instance (f : Fragment) : Decidable f.Measured :=
  inferInstanceAs (Decidable (_ ∧ _))

variable {f : Fragment} {fs : List Fragment} {before : List Text} {source : Text}

/-- Numbering, abutting and measuring leave no other spans than those behind the texts before. -/
theorem eq_layBehind (hnumbered : fs.map index = List.range' before.length fs.length)
    (hhead : ∀ f ∈ fs.head?, f.start = before.flatten.length ∧
      f.byteStart = Text.utf8Size before.flatten)
    (habut : fs.IsChain Abuts) (hmeasured : ∀ f ∈ fs, f.Measured) :
    fs = layBehind before (fs.map text) := by
  induction fs generalizing before with
  | nil => rfl
  | cons f fs ih =>
      obtain ⟨hstart, hbyteStart⟩ := hhead f rfl
      obtain ⟨⟨hstop, hbyteStop⟩, hmeasured⟩ := List.forall_mem_cons.1 hmeasured
      rw [List.map_cons, List.length_cons, List.range'_succ, List.cons.injEq] at hnumbered
      obtain ⟨hnext, habut⟩ := List.isChain_cons.1 habut
      have hf : f = behind before f.text := by
        rw [hstart] at hstop
        rw [hbyteStart] at hbyteStop
        cases f
        simp_all [behind]
      rw [List.map_cons, layBehind, ← hf]
      congr 1
      refine ih ?_ (fun g hg => ?_) habut hmeasured
      · rw [List.length_append]
        exact hnumbered.2
      · obtain ⟨hgstart, hgbyteStart⟩ := hnext g hg
        rw [hgstart, hgbyteStart, hstop, hbyteStop, hstart, hbyteStart]
        simp

theorem isSlice_of_mem_layOut {texts : List Text} (hf : f ∈ layOut texts) :
    f.IsSlice texts.flatten := by
  obtain ⟨before, t, rest, rfl, rfl⟩ := mem_layOut.1 hf
  exact isSlice_behind before rest t

theorem IsSlice.measured (h : f.IsSlice source) : f.Measured := by
  have hlen : f.text.length = f.stop - f.start := by
    rw [h.text_eq, List.length_drop, List.length_take, min_eq_left h.stop_le]
  constructor
  · rw [hlen, Nat.add_sub_cancel' h.start_le]
  · rw [h.byteStop_eq, h.take_stop, Text.utf8Size_append, h.byteStart_eq]

theorem Measured.charLen_eq (h : f.Measured) : f.charLen = f.text.length := by
  rw [charLen, h.1, Nat.add_sub_cancel_left]

theorem Measured.byteLen_eq (h : f.Measured) : f.byteLen = f.text.utf8Size := by
  rw [byteLen, h.2, Nat.add_sub_cancel_left]

end Fragment

namespace Verify

variable {limits : Limits} {source : Text} {fs : List Fragment}

theorem consecutive_cons_eq_ok_iff (position start byteStart covered : Nat) (f : Fragment)
    (fs : List Fragment) :
    consecutive limits position start byteStart (f :: fs) = .ok covered ↔
      f.index = position ∧ (f.start = start ∧ f.byteStart = byteStart) ∧
      limits.admits f.text = true ∧
      consecutive limits (position + 1) f.stop f.byteStop fs = .ok covered := by
  rw [consecutive]
  by_cases hindex : f.index = position
  · rw [if_neg (not_not_intro hindex)]
    by_cases hstart : f.start = start ∧ f.byteStart = byteStart
    · rw [if_neg fun h => not_and_or.2 h hstart, ← bounds_eq_ok_iff_admits position]
      cases bounds limits position f.text <;> simp [hindex, hstart]
    · rw [if_pos (not_and_or.1 hstart)]
      simp [hstart]
  · simp [hindex]

theorem consecutive_eq_ok_iff (position start byteStart covered : Nat) (fs : List Fragment) :
    consecutive limits position start byteStart fs = .ok covered ↔
      fs.map Fragment.index = List.range' position fs.length ∧
      (∀ f ∈ fs.head?, f.start = start ∧ f.byteStart = byteStart) ∧
      fs.IsChain Fragment.Abuts ∧
      (∀ f ∈ fs, limits.admits f.text = true) ∧
      (fs.getLast?.map Fragment.stop).getD start = covered := by
  induction fs generalizing position start byteStart with
  | nil => simp [consecutive]
  | cons f fs ih =>
      have hlast : ((f :: fs).getLast?.map Fragment.stop).getD start =
          (fs.getLast?.map Fragment.stop).getD f.stop := by
        rw [List.getLast?_cons]
        cases fs.getLast? <;> rfl
      rw [consecutive_cons_eq_ok_iff, ih, hlast, List.map_cons, List.length_cons,
        List.range'_succ, List.cons.injEq, List.isChain_cons, List.forall_mem_cons,
        List.head?_cons]
      simp only [Option.mem_some_iff, forall_eq', Fragment.Abuts]
      tauto

/-- What acceptance says of fragments. -/
structure AcceptedFragments (limits : Limits) (source : Text) (fs : List Fragment) : Prop where
  ne_nil : fs ≠ []
  numbered : fs.map Fragment.index = List.range fs.length
  head_start : ∀ f ∈ fs.head?, f.start = 0 ∧ f.byteStart = 0
  abut : fs.IsChain Fragment.Abuts
  last_stop : (fs.getLast?.map Fragment.stop).getD 0 = source.length
  within : ∀ f ∈ fs, limits.admits f.text = true
  flatten_eq : (fs.map Fragment.text).flatten = source
  isChain : (fs.map Fragment.text).IsChain fun s t => couldGrow limits s t = false

theorem fragments_eq_ok_iff :
    fragments limits source fs = .ok () ↔ AcceptedFragments limits source fs := by
  simp only [fragments, throw_or_eq_ok_iff, List.isEmpty_iff, bind_eq_ok_iff, not_not,
    consecutive_eq_ok_iff, maximal, maximalFrom_eq_ok_iff, ← List.range_eq_range']
  constructor
  · rintro ⟨hne, covered, ⟨hnumbered, hhead, habut, hwithin, hlast⟩, rfl, _, hsame, hchain⟩
    exact ⟨hne, hnumbered, hhead, habut, hlast, hwithin, (sameText_eq_ok_iff _ _).1 hsame, hchain⟩
  · intro h
    exact ⟨h.ne_nil, _, ⟨h.numbered, h.head_start, h.abut, h.within, h.last_stop⟩, rfl, (),
      (sameText_eq_ok_iff _ _).2 h.flatten_eq, h.isChain⟩

namespace AcceptedFragments

variable (h : AcceptedFragments limits source fs)

include h

theorem eq_layOut (hmeasured : ∀ f ∈ fs, f.Measured) :
    fs = Fragment.layOut (fs.map Fragment.text) := by
  rw [Fragment.layOut_eq_layBehind]
  refine Fragment.eq_layBehind ?_ h.head_start h.abut hmeasured
  rw [h.numbered, List.range_eq_range']
  rfl

theorem isSlice (hmeasured : ∀ f ∈ fs, f.Measured) : ∀ f ∈ fs, f.IsSlice source := by
  intro f hf
  rw [h.eq_layOut hmeasured] at hf
  rw [← h.flatten_eq]
  exact Fragment.isSlice_of_mem_layOut hf

theorem byteStop_last (hmeasured : ∀ f ∈ fs, f.Measured) :
    ∀ f ∈ fs.getLast?, f.byteStop = source.utf8Size := by
  intro f hf
  have hslice := h.isSlice hmeasured f (List.mem_of_mem_getLast? hf)
  have hstop := h.last_stop
  rw [Option.mem_def.1 hf, Option.map_some, Option.getD_some] at hstop
  rw [hslice.byteStop_eq, hstop, List.take_length]

end AcceptedFragments

/-- Accepted fragments are true slices of the source, within the length cap by their own count,
exactly if the spans of each are as long as its text. -/
theorem fragments_ok_slices_iff (h : fragments limits source fs = .ok ()) :
    ((∀ f ∈ fs, f.IsSlice source ∧ f.charLen ≤ limits.maxLength ∧
        f.byteLen = f.text.utf8Size) ∧
      ∀ f ∈ fs.getLast?, f.byteStop = source.utf8Size) ↔ ∀ f ∈ fs, f.Measured := by
  have haccepted := fragments_eq_ok_iff.1 h
  constructor
  · rintro ⟨hslices, -⟩ f hf
    exact (hslices f hf).1.measured
  · intro hmeasured
    refine ⟨fun f hf => ⟨haccepted.isSlice hmeasured f hf, ?_, (hmeasured f hf).byteLen_eq⟩,
      haccepted.byteStop_last hmeasured⟩
    rw [(hmeasured f hf).charLen_eq]
    exact ((limits.admits_iff _).1 (haccepted.within f hf)).2

theorem fragments_ok_slices_iff_mixedWidths :
    fragments Limits.tight Limits.mixedWidths
        (Fragment.layOut [['a', '\x00', 'é'], ['😀'], ['b']]) = .ok () ∧
      (((∀ f ∈ Fragment.layOut [['a', '\x00', 'é'], ['😀'], ['b']],
          f.IsSlice Limits.mixedWidths ∧ f.charLen ≤ Limits.tight.maxLength ∧
            f.byteLen = f.text.utf8Size) ∧
        ∀ f ∈ (Fragment.layOut [['a', '\x00', 'é'], ['😀'], ['b']]).getLast?,
          f.byteStop = Limits.mixedWidths.utf8Size) ↔
        ∀ f ∈ Fragment.layOut [['a', '\x00', 'é'], ['😀'], ['b']], f.Measured) :=
  ⟨by decide +kernel, fragments_ok_slices_iff (by decide +kernel)⟩

/-- The first span is too long for its text, and the second one ends before it begins. -/
def misplaced : List Fragment :=
  [⟨0, 0, 9, 0, 9, ['a', 'b', 'c']⟩, ⟨1, 9, 6, 9, 6, ['d', 'e', 'f']⟩]

/-- The verifier accepts fragments that lie outside their source, and that the audit refuses. -/
theorem fragments_ok_misplaced :
    fragments Limits.tight ['a', 'b', 'c', 'd', 'e', 'f'] misplaced = .ok () ∧
      (∃ f ∈ misplaced, Limits.tight.maxLength < f.charLen ∧ 6 < f.stop) ∧
      (∃ f ∈ misplaced, f.stop < f.start) ∧
      Audit.fragments Limits.tight ['a', 'b', 'c', 'd', 'e', 'f'] misplaced =
        .error (.tooLong 0 9 3) := by
  decide

end Verify

end LiteralPack
