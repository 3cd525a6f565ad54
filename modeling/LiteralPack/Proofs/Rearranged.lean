import LiteralPack.Proofs.Encoded

/-!
Sets that are put together from the parts of another set. Parts carry their numbers, so parts that
are drawn in any order, left out or repeated can only pass as a beginning of the set they come
from; and no beginning of a cut covers the text but the whole of it, since the cut has the fewest
pieces.
-/

namespace LiteralPack

section Numbered

variable {α : Type} {index : α → Nat} {items drawn : List α}

theorem index_getElem (h : items.map index = List.range items.length) {i : Nat}
    (hi : i < items.length) : index items[i] = i := by
  have hget : (items.map index)[i]? = (List.range items.length)[i]? := by rw [h]
  simpa [hi] using hget

/-- Items of a numbered list that are numbered themselves are a beginning of it. -/
theorem prefix_of_numbered (hitems : items.map index = List.range items.length)
    (hdrawn : drawn.map index = List.range drawn.length) (hmem : ∀ a ∈ drawn, a ∈ items) :
    drawn <+: items := by
  rw [List.prefix_iff_getElem?]
  intro i hi
  obtain ⟨j, hj, hsame⟩ := List.mem_iff_getElem.1 (hmem _ (List.getElem_mem hi))
  -- The item tells its place in either list, so the two places agree.
  have hplace : j = i := by
    rw [← index_getElem hitems hj, hsame]
    exact index_getElem hdrawn hi
  subst hplace
  rw [List.getElem?_eq_getElem hj, hsame]

end Numbered

namespace Verify.Accepted

variable {limits : Limits} {source : Text} {name : String} {parts : List Part}
  {texts : List Text}

theorem map_index (h : Accepted limits source (.chunked name parts) texts) :
    parts.map (·.literal.index) = List.range parts.length := by
  have hnumbered := h.numbered
  rwa [Accessors.literals, List.map_map, List.length_map] at hnumbered

theorem length_parts (h : Accepted limits source (.chunked name parts) texts) :
    parts.length = texts.length := by
  have hlength := h.decoded.length_eq
  rwa [Accessors.literals, List.length_map] at hlength

end Verify.Accepted

/-- Of all sets that the parts of an encoded set can be arranged into, with parts left out or
repeated, the verifier accepts the encoded set alone. -/
theorem Encoder.verify_rearranged_iff (e : Encoder) (accessor : String) (t : Text) {name : String}
    {parts drawn : List Part} (h : e.encode accessor t = .ok (.chunked name parts))
    (hmem : ∀ p ∈ drawn, p ∈ parts) :
    (∃ report, Verify.accessors e.limits t (.chunked name drawn) = .ok report) ↔ drawn = parts := by
  obtain ⟨pieces, hcut, hset⟩ := encode_eq_ok_iff.1 h
  have hparts := hcut.accepted e.target e.partPrefix accessor
  rw [← hset] at hparts
  constructor
  · rintro ⟨report, hreport⟩
    obtain ⟨texts, haccepted, -⟩ := Verify.accessors_eq_ok_iff.1 hreport
    have hprefix : drawn <+: parts := prefix_of_numbered hparts.map_index haccepted.map_index hmem
    have hfewest : pieces.length ≤ texts.length :=
      hcut.length_le_of_flatten_eq haccepted.ne_nil haccepted.flatten_eq haccepted.within
    apply hprefix.eq_of_length_le
    rw [hparts.length_parts, haccepted.length_parts]
    exact hfewest
  · rintro rfl
    exact ⟨_, Verify.accessors_eq_ok_iff.2 ⟨pieces, hparts, rfl⟩⟩

/-- The parts of `twoParts` the other way round. -/
def swappedParts : List Part :=
  [⟨"body1", ⟨1, "\\uD83D\\uDE00".toList, 1, 4⟩⟩, ⟨"body0", ⟨0, "\\$\\\\a".toList, 3, 3⟩⟩]

theorem Encoder.verify_rearranged_iff_swapped :
    tightKotlin.encode "body" ['$', '\\', 'a', '😀'] = .ok (.chunked "body" swappedParts.reverse) ∧
      (∀ p ∈ swappedParts, p ∈ swappedParts.reverse) ∧
      ((∃ report, Verify.accessors Limits.tight ['$', '\\', 'a', '😀']
        (.chunked "body" swappedParts) = .ok report) ↔ swappedParts = swappedParts.reverse) := by
  have hencode : tightKotlin.encode "body" ['$', '\\', 'a', '😀'] =
      .ok (.chunked "body" swappedParts.reverse) := by decide +kernel
  have hmem : ∀ p ∈ swappedParts, p ∈ swappedParts.reverse := by simp
  exact ⟨hencode, hmem, tightKotlin.verify_rearranged_iff "body" _ hencode hmem⟩

end LiteralPack
