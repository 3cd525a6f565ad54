import Mathlib.Data.List.Nodup
import LiteralPack.Encode
import LiteralPack.Proofs.AcceptedCut
import LiteralPack.Proofs.Escape
import LiteralPack.Proofs.Layout

/-!
Sets that an encoder makes. The names of their accessors are distinct whatever prefix and name
they are built from, their literals decode to the pieces of the cut, and the verifier accepts them.
-/

namespace LiteralPack

theorem partName_injective (partPrefix accessor : String) :
    Function.Injective (partName partPrefix accessor) := by
  intro i j h
  have hdigits : Nat.toDigits 10 i = Nat.toDigits 10 j := by
    have hlists := congrArg String.toList h
    simpa [partName, Nat.toString_eq_repr] using hlists
  rw [← Nat.ofDigitChars_ten_toDigits (n := i), hdigits, Nat.ofDigitChars_ten_toDigits]

theorem partName_ne (partPrefix accessor : String) (index : Nat) :
    partName partPrefix accessor index ≠ accessor := by
  intro h
  have hlen := congrArg String.length h
  have hpos := Nat.length_repr_pos (n := index)
  simp only [partName, String.length_append, Nat.toString_eq_repr] at hlen
  omega

namespace Accessors

variable {partPrefix accessor : String} {literals : List Literal}

/-- Several literals make parts, and one does not. -/
theorem isChunked_assemble_of_ne_nil (partPrefix accessor : String) (h : literals ≠ []) :
    (assemble partPrefix accessor literals).isChunked = decide (1 < literals.length) := by
  have hpos := List.length_pos_of_ne_nil h
  rw [isChunked_assemble, Bool.eq_iff_iff, bne_iff_ne, decide_eq_true_eq]
  omega

theorem map_name_parts (partPrefix accessor : String) (literals : List Literal) :
    (parts partPrefix accessor literals).map Part.name =
      (List.range literals.length).map (partName partPrefix accessor) := by
  rw [parts, List.map_map, List.range_eq_range', ← List.zipIdx_map_snd 0 literals, List.map_map]
  rfl

theorem nodup_names (partPrefix accessor : String) (literals : List Literal) :
    ((assemble partPrefix accessor literals).name ::
      (assemble partPrefix accessor literals).assembly).Nodup := by
  unfold assemble
  split
  · exact List.nodup_singleton accessor
  · rw [assembly, map_name_parts, List.nodup_cons]
    constructor
    · intro hmem
      obtain ⟨index, -, h⟩ := List.mem_map.1 hmem
      exact partName_ne partPrefix accessor index h
    · exact List.nodup_range.map (partName_injective partPrefix accessor)

end Accessors

namespace Limits

variable {limits : Limits} {t : Text} {texts : List Text}

/-- Whatever the names, the literals of a cut make a set that the verifier accepts. -/
theorem IsCut.accepted (h : IsCut limits t texts) (target : Target)
    (partPrefix accessor : String) :
    Verify.Accepted limits t (Accessors.assemble partPrefix accessor
      ((Fragment.layOut texts).map (Fragment.literal target))) texts := by
  have hne : (Fragment.layOut texts).map (Fragment.literal target) ≠ [] := by
    rw [ne_eq, List.map_eq_nil_iff, ← List.length_eq_zero_iff, Fragment.layOut_length,
      List.length_eq_zero_iff]
    exact h.ne_nil
  constructor
  case literals_ne_nil => rwa [Accessors.literals_assemble]
  case isChunked_eq =>
    rw [Accessors.literals_assemble]
    exact Accessors.isChunked_assemble_of_ne_nil partPrefix accessor hne
  case nodup_names => exact Accessors.nodup_names partPrefix accessor _
  case numbered =>
    rw [Accessors.literals_assemble, List.map_map, List.length_map, Fragment.layOut_length]
    exact Fragment.layOut_map_index texts
  case decoded =>
    have hpairs : List.Forall₂ (fun l s => Literal.decode l.body = .ok s)
        ((Fragment.layOut texts).map (Fragment.literal target))
        ((Fragment.layOut texts).map Fragment.text) := by
      rw [List.forall₂_map_left_iff, List.forall₂_map_right_iff, List.forall₂_same]
      exact fun f _ => Literal.decode_escape target f.text
    rw [Accessors.literals_assemble]
    rwa [Fragment.layOut_map_text] at hpairs
  case within => exact h.admits
  case flatten_eq => exact h.flatten
  case isChain => exact h.isChain_couldGrow

end Limits

theorem Encoder.encode_eq_ok_iff {e : Encoder} {accessor : String} {t : Text} {set : Accessors} :
    e.encode accessor t = .ok set ↔ ∃ texts, Limits.IsCut e.limits t texts ∧
      set = Accessors.assemble e.partPrefix accessor
        ((Fragment.layOut texts).map (Fragment.literal e.target)) := by
  simp only [Encoder.encode]
  constructor
  · intro h
    cases hcut : e.limits.cut t with
    | error wide =>
        rw [hcut] at h
        cases h
    | ok fragments =>
        obtain ⟨texts, htexts, rfl⟩ := Limits.cut_eq_ok_iff.1 hcut
        rw [hcut] at h
        cases h
        exact ⟨texts, htexts, rfl⟩
  · rintro ⟨texts, htexts, rfl⟩
    rw [Limits.cut_eq_ok_iff.2 ⟨texts, htexts, rfl⟩]
    rfl

/-- The verifier accepts whatever an encoder makes, and reports the cut it came from. -/
theorem Encoder.encode_verifies (e : Encoder) (accessor : String) (t : Text) {set : Accessors}
    (h : e.encode accessor t = .ok set) :
    ∃ fragments report,
      e.limits.cut t = .ok fragments ∧
      Verify.accessors e.limits t set = .ok report ∧
      set.literals.map (fun l => Literal.decode l.body) = fragments.map (fun f => .ok f.text) ∧
      (fragments.map Fragment.text).flatten = t ∧
      report.fragments = set.count ∧
      report.chars = t.length ∧
      report.bytes = e.limits.size t ∧
      (fragments.map fun f => e.limits.size f.text).max? = some report.largestFragmentBytes ∧
      report.largestFragmentBytes ≤ e.limits.maxBytes ∧
      report.chunked = decide (1 < report.fragments) := by
  obtain ⟨texts, hcut, rfl⟩ := encode_eq_ok_iff.1 h
  have haccepted := hcut.accepted e.target e.partPrefix accessor
  have htexts := Fragment.layOut_map_text texts
  refine ⟨_, _, Limits.cut_eq_ok_iff.2 ⟨texts, hcut, rfl⟩,
    Verify.accessors_eq_ok_iff.2 ⟨texts, haccepted, rfl⟩, ?_, ?_, haccepted.fragments_reportOf, rfl,
    rfl, ?_, haccepted.largestFragmentBytes_le, haccepted.chunked_reportOf⟩
  · rw [haccepted.map_decode, ← htexts, List.map_map, htexts]
    rfl
  · rw [htexts, hcut.flatten]
  · rw [← haccepted.max?_map_size, ← htexts, List.map_map, htexts]
    rfl

def tightKotlin : Encoder where
  target := .kotlin
  partPrefix := ""
  limits := Limits.tight

/-- Two parts, the second of which is a surrogate pair. -/
def twoParts : Accessors :=
  .chunked "body"
    [⟨"body0", ⟨0, "\\$\\\\a".toList, 3, 3⟩⟩, ⟨"body1", ⟨1, "\\uD83D\\uDE00".toList, 1, 4⟩⟩]

theorem encode_verifies_twoParts :
    tightKotlin.encode "body" ['$', '\\', 'a', '😀'] = .ok twoParts ∧
      ∃ fragments report,
        Limits.tight.cut ['$', '\\', 'a', '😀'] = .ok fragments ∧
        Verify.accessors Limits.tight ['$', '\\', 'a', '😀'] twoParts = .ok report ∧
        twoParts.literals.map (fun l => Literal.decode l.body) =
          fragments.map (fun f => .ok f.text) ∧
        (fragments.map Fragment.text).flatten = ['$', '\\', 'a', '😀'] ∧
        report.fragments = twoParts.count ∧
        report.chars = 4 ∧
        report.bytes = Limits.tight.size ['$', '\\', 'a', '😀'] ∧
        (fragments.map fun f => Limits.tight.size f.text).max? =
          some report.largestFragmentBytes ∧
        report.largestFragmentBytes ≤ Limits.tight.maxBytes ∧
        report.chunked = decide (1 < report.fragments) :=
  ⟨by decide +kernel, tightKotlin.encode_verifies "body" _ (by decide +kernel)⟩

end LiteralPack
