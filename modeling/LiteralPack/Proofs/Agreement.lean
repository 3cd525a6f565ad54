import Mathlib.Tactic.TFAE
import LiteralPack.Proofs.AcceptedCut
import LiteralPack.Proofs.AcceptedFragments

/-!
The verifier and the audit on slices of a source. The verifier measures texts where the audit
subtracts offsets, and it follows the byte spans, which the audit ignores. On true slices the two
come to the same, and what both accept is the cut with nothing but empty fragments behind it.
-/

namespace LiteralPack

namespace Fragment

variable {before texts others : List Text} {source : Text}

/-- The empty fragment that stands behind the end of a source. -/
def emptyAt (source : Text) (index : Nat) : Fragment :=
  ⟨index, source.length, source.length, source.utf8Size, source.utf8Size, []⟩

theorem layBehind_replicate (before : List Text) (count : Nat) :
    layBehind before (List.replicate count []) =
      (List.range' before.length count).map (emptyAt before.flatten) := by
  induction count generalizing before with
  | zero => rfl
  | succ count ih =>
      have hflatten : (before ++ [[]]).flatten = before.flatten := by simp
      have hempty : behind before [] = emptyAt before.flatten before.length := rfl
      rw [List.replicate_succ, layBehind, ih, hflatten, List.range'_succ, List.map_cons, hempty,
        List.length_append]
      rfl

theorem layOut_append_replicate (texts : List Text) (count : Nat) :
    layOut (texts ++ List.replicate count []) =
      layOut texts ++ (List.range' (layOut texts).length count).map (emptyAt texts.flatten) := by
  rw [layOut_eq_layBehind, layBehind_append, List.nil_append, layBehind_replicate,
    ← layOut_eq_layBehind, layOut_length]

theorem isChain_abuts_layBehind (before texts : List Text) :
    (layBehind before texts).IsChain Abuts := by
  induction texts generalizing before with
  | nil => exact .nil
  | cons t texts ih =>
      refine (ih (before ++ [t])).cons fun next hnext => ?_
      cases texts with
      | nil => cases hnext
      | cons s texts =>
          cases hnext
          simp [Abuts, behind]

end Fragment

namespace Verify

variable {limits : Limits} {source : Text} {fs : List Fragment} {texts : List Text}

/-- Texts that pass on their own pass as fragments laid end to end. -/
theorem AcceptedFragments.layOut (hne : texts ≠ []) (hfit : ∀ t ∈ texts, limits.admits t = true)
    (hchain : texts.IsChain fun s t => couldGrow limits s t = false) :
    AcceptedFragments limits texts.flatten (Fragment.layOut texts) := by
  have htexts := Fragment.layOut_map_text texts
  constructor
  case ne_nil =>
    intro hnil
    rw [hnil] at htexts
    exact hne htexts.symm
  case numbered => rw [Fragment.layOut_map_index, Fragment.layOut_length]
  case head_start =>
    intro f hf
    rw [Fragment.layOut_eq_layBehind] at hf
    cases texts with
    | nil => cases hf
    | cons t texts =>
        cases hf
        exact ⟨rfl, rfl⟩
  case abut =>
    rw [Fragment.layOut_eq_layBehind]
    exact Fragment.isChain_abuts_layBehind [] texts
  case last_stop =>
    obtain ⟨before, t, rfl⟩ := (List.eq_nil_or_concat' texts).resolve_left hne
    rw [Fragment.getLast?_layOut_eq_some_iff.2 ⟨before, t, rfl, rfl⟩]
    simp [Fragment.behind]
  case within =>
    intro f hf
    exact hfit f.text (htexts ▸ List.mem_map_of_mem hf)
  case flatten_eq => rw [htexts]
  case isChain => rwa [htexts]

/-! ### The audit -/

/-- For a measured fragment within the length cap, falling short of the cap and missing it are
the same. -/
theorem couldGrow_eq_audit {f : Fragment} (hf : f.Measured)
    (hlen : f.text.length ≤ limits.maxLength) (next : Fragment) :
    Audit.couldGrow limits f next = couldGrow limits f.text next.text := by
  unfold Audit.couldGrow couldGrow
  cases next.text with
  | nil => rfl
  | cons c rest =>
      have hshort : decide (f.charLen ≠ limits.maxLength) =
          decide (f.text.length < limits.maxLength) := by
        rw [hf.charLen_eq, decide_eq_decide]
        omega
      simp only [hasRoom, hshort]

theorem maximalFrom_eq_ok_iff_audit (position : Nat) (hmeasured : ∀ f ∈ fs, f.Measured)
    (hfit : ∀ f ∈ fs, limits.admits f.text = true) :
    maximalFrom limits position (fs.map Fragment.text) = .ok () ↔
      Audit.maximalFrom limits position fs = .ok () := by
  induction fs generalizing position with
  | nil => simp [maximalFrom, Audit.maximalFrom]
  | cons f fs ih =>
      cases fs with
      | nil => simp [maximalFrom, Audit.maximalFrom]
      | cons next fs =>
          rw [List.forall_mem_cons] at hmeasured hfit
          have hgrow := couldGrow_eq_audit hmeasured.1
            ((limits.admits_iff f.text).1 hfit.1).2 next
          have htail := ih (position + 1) hmeasured.2 hfit.2
          rw [List.map_cons] at htail
          rw [List.map_cons, List.map_cons, maximalFrom, Audit.maximalFrom, hgrow]
          cases couldGrow limits f.text next.text with
          | true => simp
          | false => simpa using htail

theorem audit_consecutive_cons_eq_ok_iff {f : Fragment} (hf : f.Measured)
    (position cursor covered : Nat) (fs : List Fragment) :
    Audit.consecutive limits position cursor (f :: fs) = .ok covered ↔
      f.index = position ∧ f.start = cursor ∧ limits.admits f.text = true ∧
      Audit.consecutive limits (position + 1) f.stop fs = .ok covered := by
  have hforward : ¬ f.stop < f.start := by
    rw [hf.1]
    omega
  rw [Audit.consecutive, if_neg hforward, hf.charLen_eq, limits.admits_iff]
  split_ifs with hindex hstart hlong hheavy
  · simp [hindex]
  · simp [hstart]
  · simp only [false_iff, not_and]
    omega
  · simp only [false_iff, not_and]
    omega
  · simp only [not_not, not_lt] at *
    tauto

/-- One walk follows both spans and the other one only the first: the offset in code points gives
that in bytes. -/
theorem consecutive_eq_ok_iff_audit (hslices : ∀ f ∈ fs, f.IsSlice source)
    (position cursor covered : Nat) :
    consecutive limits position cursor (Text.utf8Size (source.take cursor)) fs = .ok covered ↔
      Audit.consecutive limits position cursor fs = .ok covered := by
  induction fs generalizing position cursor with
  | nil => simp [consecutive, Audit.consecutive]
  | cons f fs ih =>
      obtain ⟨hslice, hslices⟩ := List.forall_mem_cons.1 hslices
      have hspan : f.start = cursor ∧ f.byteStart = Text.utf8Size (source.take cursor) ↔
          f.start = cursor := by
        rw [hslice.byteStart_eq]
        exact ⟨And.left, fun h => ⟨h, by rw [h]⟩⟩
      rw [consecutive_cons_eq_ok_iff, audit_consecutive_cons_eq_ok_iff hslice.measured, hspan,
        hslice.byteStop_eq, ih hslices]

theorem fragments_eq_ok_iff_audit (hslices : ∀ f ∈ fs, f.IsSlice source) :
    fragments limits source fs = .ok () ↔ Audit.fragments limits source fs = .ok () := by
  have hmeasured : ∀ f ∈ fs, f.Measured := fun f hf => (hslices f hf).measured
  have hwalks : ∀ covered, consecutive limits 0 0 0 fs = .ok covered ↔
      Audit.consecutive limits 0 0 fs = .ok covered :=
    consecutive_eq_ok_iff_audit hslices 0 0
  have hmaximals : ∀ covered, consecutive limits 0 0 0 fs = .ok covered →
      (maximalFrom limits 0 (fs.map Fragment.text) = .ok () ↔
        Audit.maximalFrom limits 0 fs = .ok ()) := by
    intro covered hwalk
    obtain ⟨-, -, -, hfit, -⟩ := (consecutive_eq_ok_iff 0 0 0 covered fs).1 hwalk
    exact maximalFrom_eq_ok_iff_audit 0 hmeasured hfit
  simp only [fragments, Audit.fragments, throw_or_eq_ok_iff, throw_or_pure_eq_ok_iff,
    List.isEmpty_iff, bind_eq_ok_iff, not_not, maximal]
  -- The two compare texts and neighbours in opposite orders.
  constructor
  · rintro ⟨hne, covered, hwalk, hcovered, _, hsame, hmaximal⟩
    exact ⟨hne, covered, (hwalks covered).1 hwalk, hcovered, (),
      (hmaximals covered hwalk).1 hmaximal, (sameText_eq_ok_iff _ _).1 hsame⟩
  · rintro ⟨hne, covered, hwalk, hcovered, _, hmaximal, hsame⟩
    have hwalk := (hwalks covered).2 hwalk
    exact ⟨hne, covered, hwalk, hcovered, (), (sameText_eq_ok_iff _ _).2 hsame,
      (hmaximals covered hwalk).2 hmaximal⟩

/-! ### The cut -/

theorem fragments_eq_ok_iff_cut (hslices : ∀ f ∈ fs, f.IsSlice source) :
    fragments limits source fs = .ok () ↔
      ∃ cut surplus, limits.cut source = .ok cut ∧
        fs = cut ++ (List.range' cut.length surplus).map (Fragment.emptyAt source) := by
  constructor
  · intro h
    have haccepted := fragments_eq_ok_iff.1 h
    have hne : fs.map Fragment.text ≠ [] := mt List.map_eq_nil_iff.1 haccepted.ne_nil
    obtain ⟨pieces, surplus, htexts, hcut⟩ :=
      Limits.IsCut.exists_of_isChain hne (List.forall_mem_map.2 haccepted.within) haccepted.isChain
    rw [haccepted.flatten_eq] at hcut
    refine ⟨_, surplus, Limits.cut_eq_ok_iff.2 ⟨pieces, hcut, rfl⟩, ?_⟩
    conv_lhs => rw [haccepted.eq_layOut fun f hf => (hslices f hf).measured, htexts]
    rw [Fragment.layOut_append_replicate, hcut.flatten]
  · rintro ⟨cut, surplus, hcut, rfl⟩
    obtain ⟨pieces, hpieces, rfl⟩ := Limits.cut_eq_ok_iff.1 hcut
    rw [← hpieces.flatten, ← Fragment.layOut_append_replicate]
    have hflatten : (pieces ++ List.replicate surplus []).flatten = pieces.flatten := by simp
    rw [fragments_eq_ok_iff, ← hflatten]
    apply AcceptedFragments.layOut
    · simp [hpieces.ne_nil]
    · intro t ht
      rw [List.mem_append] at ht
      obtain ht | ht := ht
      · exact hpieces.admits t ht
      · rw [List.eq_of_mem_replicate ht]
        exact limits.admits_nil
    · refine List.isChain_append.2 ⟨hpieces.isChain_couldGrow,
        List.isChain_replicate_of_rel surplus rfl, fun s _ t ht => ?_⟩
      rw [List.eq_of_mem_replicate (List.mem_of_mem_head? ht)]
      rfl

/-- Verifier, audit and cut agree on what a good list of slices is. Behind the cut they let pass any
number of empty fragments, as long as these are numbered on. -/
theorem fragments_tfae (limits : Limits) (hslices : ∀ f ∈ fs, f.IsSlice source) :
    List.TFAE [
      fragments limits source fs = .ok (),
      Audit.fragments limits source fs = .ok (),
      ∃ cut surplus, limits.cut source = .ok cut ∧
        fs = cut ++ (List.range' cut.length surplus).map (Fragment.emptyAt source)] := by
  tfae_have 1 ↔ 2 := fragments_eq_ok_iff_audit hslices
  tfae_have 1 ↔ 3 := fragments_eq_ok_iff_cut hslices
  tfae_finish

/-- The cut of a text of mixed widths, with two empty fragments behind it. -/
def padded : List Fragment := Fragment.layOut [['a', '\x00', 'é'], ['😀'], ['b'], [], []]

theorem fragments_tfae_padded :
    (∀ f ∈ padded, f.IsSlice Limits.mixedWidths) ∧
      fragments Limits.tight Limits.mixedWidths padded = .ok () ∧
      List.TFAE [
        fragments Limits.tight Limits.mixedWidths padded = .ok (),
        Audit.fragments Limits.tight Limits.mixedWidths padded = .ok (),
        ∃ cut surplus, Limits.tight.cut Limits.mixedWidths = .ok cut ∧
          padded = cut ++ (List.range' cut.length surplus).map
            (Fragment.emptyAt Limits.mixedWidths)] := by
  have hslices : ∀ f ∈ padded, f.IsSlice Limits.mixedWidths := fun f hf =>
    Fragment.isSlice_of_mem_layOut hf
  exact ⟨hslices, by decide +kernel, fragments_tfae Limits.tight hslices⟩

end Verify

end LiteralPack
