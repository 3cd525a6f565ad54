import LiteralPack.Proofs.Acceptance
import LiteralPack.Proofs.Greedy

/-!
What the pairwise checks of the verifier say of a whole set. No two neighbours could share a code
point more, so the texts are those of the cut, with one exception: an empty text leaves nothing to
take, so any number of them passes behind the cut.
-/

namespace LiteralPack

namespace Limits

variable {limits : Limits} {t : Text} {texts pieces : List Text}

namespace Greedy

theorem couldGrow_head_of_admits {c : Char} {p : Text} (h : limits.admits (c :: p) = true) :
    Verify.couldGrow limits [] (c :: p) = true := by
  rw [Verify.couldGrow_cons]
  exact admits_of_infix h ⟨[], p, by simp⟩

/-- Texts of which none could take a code point of the next one are greedy pieces, up to a tail of
empty texts. -/
theorem exists_of_isChain (hfit : ∀ p ∈ texts, limits.admits p = true)
    (hchain : texts.IsChain fun s t => Verify.couldGrow limits s t = false) :
    ∃ pieces surplus, texts = pieces ++ List.replicate surplus [] ∧
      Greedy limits texts.flatten pieces := by
  induction texts with
  | nil => exact ⟨[], 0, rfl, .nil⟩
  | cons s texts ih =>
      obtain ⟨hs, hrest⟩ := List.forall_mem_cons.1 hfit
      obtain ⟨pieces, surplus, rfl, h⟩ := ih hrest hchain.tail
      cases pieces with
      | nil =>
          -- Nothing but empty texts follows, so `s` either joins them or is the last piece.
          cases s with
          | nil => exact ⟨[], surplus + 1, rfl, h⟩
          | cons c s =>
              refine ⟨[c :: s], surplus, rfl, .cons (List.cons_ne_nil c s) ?_ h⟩
              exact longest_append_eq hs fun d hd => by simp at hd
      | cons p pieces =>
          obtain ⟨d, p, rfl⟩ := List.exists_cons_of_ne_nil fun hp : p = [] =>
            h.nil_not_mem (hp ▸ List.mem_cons_self)
          have hgrow : Verify.couldGrow limits s (d :: p) = false :=
            (List.isChain_cons_cons.1 hchain).1
          cases s with
          | nil =>
              rw [couldGrow_head_of_admits (hrest _ List.mem_cons_self)] at hgrow
              cases hgrow
          | cons c s =>
              refine ⟨(c :: s) :: (d :: p) :: pieces, surplus, rfl,
                .cons (List.cons_ne_nil c s) (longest_append_eq hs fun e he => ?_) h⟩
              cases he
              rwa [Verify.couldGrow_cons] at hgrow

end Greedy

namespace IsCut

theorem exists_of_isChain (hne : texts ≠ []) (hfit : ∀ p ∈ texts, limits.admits p = true)
    (hchain : texts.IsChain fun s t => Verify.couldGrow limits s t = false) :
    ∃ pieces surplus, texts = pieces ++ List.replicate surplus [] ∧
      IsCut limits texts.flatten pieces := by
  obtain ⟨pieces, surplus, htexts, h⟩ := Greedy.exists_of_isChain hfit hchain
  by_cases hflat : texts.flatten = []
  · -- The first of the empty texts is the one fragment of the empty text.
    obtain rfl := h.eq_nil_iff.2 hflat
    cases surplus with
    | zero => exact absurd htexts hne
    | succ surplus =>
        refine ⟨[[]], surplus, htexts, ?_⟩
        rw [hflat]
        exact .empty
  · exact ⟨pieces, surplus, htexts, .greedy hflat h⟩

theorem isChain_couldGrow (h : IsCut limits t pieces) :
    pieces.IsChain fun s next => Verify.couldGrow limits s next = false := by
  refine h.isChain.imp fun s next hfull => ?_
  obtain ⟨c, hc, hfull⟩ := hfull
  obtain ⟨rest, rfl⟩ := List.head?_eq_some_iff.1 hc
  rw [Verify.couldGrow_cons]
  exact hfull

/-- A cut is told from one with a tail of empty texts by having no empty text among several. -/
theorem surplus_eq_zero_iff (h : IsCut limits t pieces) (surplus : Nat) :
    surplus = 0 ↔ (1 < pieces.length + surplus → [] ∉ pieces ++ List.replicate surplus []) := by
  have hpos := List.length_pos_of_ne_nil h.ne_nil
  constructor
  · rintro rfl hlen hmem
    rw [List.replicate_zero, List.append_nil] at hmem
    cases h with
    | empty => simp at hlen
    | greedy _ h => exact h.nil_not_mem hmem
  · intro hnot
    by_contra hsurplus
    refine hnot (by omega) (List.mem_append_right _ ?_)
    exact List.mem_replicate.2 ⟨hsurplus, rfl⟩

end IsCut

end Limits

namespace Verify

variable {limits : Limits} {source : Text} {set : Accessors} {texts : List Text}

namespace Accepted

variable (h : Accepted limits source set texts)

include h

theorem exists_isCut : ∃ pieces surplus, texts = pieces ++ List.replicate surplus [] ∧
    Limits.IsCut limits source pieces := by
  have hcut := Limits.IsCut.exists_of_isChain h.ne_nil h.within h.isChain
  rwa [h.flatten_eq] at hcut

theorem isChunked_iff : set.isChunked = true ↔ 1 < texts.length := by
  rw [h.isChunked_eq, decide_eq_true_eq, h.decoded.length_eq]

theorem forall_decode_ne_nil_iff :
    (∀ l ∈ set.literals, Literal.decode l.body ≠ .ok []) ↔ [] ∉ texts := by
  have hmem : .ok [] ∈ set.literals.map (fun l => Literal.decode l.body) ↔ [] ∈ texts := by
    rw [h.map_decode, List.mem_map]
    simp
  rw [← hmem, List.mem_map]
  simp

end Accepted

/-- An accepted set holds the cut of its source, and empty parts behind it. It holds the cut alone
exactly if no part of several is empty; then it has the fewest parts that the limits allow, and it
is chunked only where one literal would not do. -/
theorem accessors_ok_cut {report : Report} (h : accessors limits source set = .ok report) :
    ∃ fragments surplus,
      limits.cut source = .ok fragments ∧
      set.literals.map (fun l => Literal.decode l.body) =
        fragments.map (fun f => .ok f.text) ++ List.replicate surplus (.ok []) ∧
      report.fragments = fragments.length + surplus ∧
      (∀ others : List Text, others ≠ [] → others.flatten = source →
        (∀ p ∈ others, limits.admits p = true) → fragments.length ≤ others.length) ∧
      (report.chunked = false ↔ limits.admits source = true ∧ surplus = 0) ∧
      (surplus = 0 ↔
        (set.isChunked = true → ∀ l ∈ set.literals, Literal.decode l.body ≠ .ok [])) := by
  obtain ⟨texts, haccepted, rfl⟩ := accessors_eq_ok_iff.1 h
  obtain ⟨pieces, surplus, htexts, hcut⟩ := haccepted.exists_isCut
  have hlen : texts.length = pieces.length + surplus := by
    rw [htexts, List.length_append, List.length_replicate]
  refine ⟨_, surplus, Limits.cut_eq_ok_iff.2 ⟨pieces, hcut, rfl⟩, ?_, ?_, ?_, ?_, ?_⟩
  · rw [haccepted.map_decode, htexts, List.map_append, List.map_replicate]
    congr 1
    conv_lhs => rw [← Fragment.layOut_map_text pieces, List.map_map]
    rfl
  · rw [Fragment.layOut_length]
    exact hlen
  · intro others hne hcover hfit
    rw [Fragment.layOut_length]
    exact hcut.length_le_of_flatten_eq hne hcover hfit
  · have hpos := List.length_pos_of_ne_nil hcut.ne_nil
    rw [← hcut.length_eq_one_iff, ← Bool.not_eq_true, reportOf, haccepted.isChunked_iff, hlen]
    omega
  · rw [haccepted.isChunked_iff, haccepted.forall_decode_ne_nil_iff, hlen, htexts]
    exact hcut.surplus_eq_zero_iff surplus

/-- The whole text in one part, and a part behind it that returns nothing. -/
def emptyTail : Accessors :=
  .chunked "body" [⟨"body0", ⟨0, ['a', 'b', 'c'], 3, 3⟩⟩, ⟨"body1", ⟨1, [], 0, 0⟩⟩]

theorem accepted_emptyTail :
    Accepted Limits.tight ['a', 'b', 'c'] emptyTail [['a', 'b', 'c'], []] where
  literals_ne_nil := by decide
  isChunked_eq := by decide
  nodup_names := by decide
  numbered := by decide
  decoded := .cons (by decide) (.cons (by decide) .nil)
  within := by decide
  flatten_eq := by decide
  isChain := by decide

theorem accessors_emptyTail :
    accessors Limits.tight ['a', 'b', 'c'] emptyTail = .ok ⟨2, 3, 3, 3, true⟩ :=
  accessors_eq_ok_iff.2 ⟨_, accepted_emptyTail, by decide⟩

theorem accessors_ok_cut_emptyTail :
    accessors Limits.tight ['a', 'b', 'c'] emptyTail = .ok ⟨2, 3, 3, 3, true⟩ ∧
      ∃ fragments surplus,
        Limits.tight.cut ['a', 'b', 'c'] = .ok fragments ∧
        emptyTail.literals.map (fun l => Literal.decode l.body) =
          fragments.map (fun f => .ok f.text) ++ List.replicate surplus (.ok []) ∧
        2 = fragments.length + surplus ∧
        (∀ others : List Text, others ≠ [] → others.flatten = ['a', 'b', 'c'] →
          (∀ p ∈ others, Limits.tight.admits p = true) → fragments.length ≤ others.length) ∧
        (true = false ↔ Limits.tight.admits ['a', 'b', 'c'] = true ∧ surplus = 0) ∧
        (surplus = 0 ↔ (emptyTail.isChunked = true →
          ∀ l ∈ emptyTail.literals, Literal.decode l.body ≠ .ok [])) :=
  ⟨accessors_emptyTail, accessors_ok_cut accessors_emptyTail⟩

/-- One literal would do for a text that the verifier accepts in two parts. -/
theorem accessors_ok_not_cut :
    accessors Limits.tight ['a', 'b', 'c'] emptyTail = .ok ⟨2, 3, 3, 3, true⟩ ∧
      Limits.tight.cut ['a', 'b', 'c'] = .ok [Fragment.first ['a', 'b', 'c']] ∧
      emptyTail.literals.map (fun l => Literal.decode l.body) ≠ [.ok ['a', 'b', 'c']] ∧
      Limits.tight.admits ['a', 'b', 'c'] = true :=
  ⟨accessors_emptyTail, by decide +kernel, by decide, by decide⟩

end Verify

end LiteralPack
