import Mathlib.Data.List.Chain
import LiteralPack.Cut

/-!
What the cut computes, without its offsets and accumulators. A piece is the longest beginning of
the rest that the limits admit, and a greedy cut takes such pieces until nothing remains. Both caps
pass on to every part of a text, so no competing way to cut the text is ever ahead of the greedy
one.
-/

namespace LiteralPack

theorem Measure.length_le_size (m : Measure) (t : Text) : t.length ≤ m.size t := by
  induction t with
  | nil => exact Nat.le_refl 0
  | cons c t ih =>
      have hc := m.width_pos c
      rw [List.length_cons, size_cons]
      omega

theorem Measure.size_le_of_infix (m : Measure) {s t : Text} (h : s <:+: t) :
    m.size s ≤ m.size t := by
  obtain ⟨before, behind, rfl⟩ := h
  rw [size_append, size_append]
  omega

theorem prefix_flatten_take (k : Nat) (texts : List Text) :
    (texts.take k).flatten <+: texts.flatten :=
  ⟨(texts.drop k).flatten, by rw [← List.flatten_append, List.take_append_drop]⟩

namespace Limits

variable {limits : Limits} {t rest p q : Text} {texts others : List Text}

theorem width_le_of_mem (h : limits.admits t = true) {c : Char} (hc : c ∈ t) :
    limits.width c ≤ limits.maxBytes := by
  obtain ⟨before, behind, rfl⟩ := List.append_of_mem hc
  have hs := ((limits.admits_iff _).1 h).1
  simp only [size, Measure.size_append, Measure.size_cons] at hs
  rw [width]
  omega

/-- Both caps pass on to every part of a text. -/
theorem admits_of_infix (h : limits.admits t = true) (hp : p <:+: t) :
    limits.admits p = true := by
  rw [admits_iff] at h ⊢
  exact ⟨(limits.measure.size_le_of_infix hp).trans h.1, hp.length_le.trans h.2⟩

@[simp] theorem admits_nil (limits : Limits) : limits.admits [] = true := by
  simp [admits, size]

theorem admits_singleton (limits : Limits) (c : Char) :
    limits.admits [c] = true ↔ limits.width c ≤ limits.maxBytes := by
  have hl := limits.maxLength_pos
  rw [admits_iff]
  simp only [size, Measure.size_cons, Measure.size_nil, List.length_singleton, width]
  omega

/-! ### The longest piece -/

/-- The size cap alone bounds the length, so nothing longer than the proposal is admitted. -/
theorem prefix_proposal (hp : p <+: rest) (h : limits.admits p = true) :
    p <+: limits.proposal rest := by
  obtain ⟨hs, hl⟩ := (limits.admits_iff p).1 h
  have hb : p.length ≤ limits.maxBytes := (limits.measure.length_le_size p).trans hs
  exact List.prefix_take_iff.2 ⟨hp, le_min hl hb⟩

theorem suffix_retract (limits : Limits) {held s : Text} (hs : s <:+ held)
    (h : limits.size s ≤ limits.maxBytes) :
    s <:+ limits.retract held (limits.size held) := by
  induction held with
  | nil => simpa [retract] using hs
  | cons c held ih =>
      unfold retract
      split
      · exact hs
      · -- `held` is too heavy as a whole, so a suffix within the cap leaves out `c`.
        rename_i hheavy
        rcases List.suffix_cons_iff.1 hs with rfl | hs
        · exact absurd h hheavy
        · have hsize : limits.size (c :: held) - limits.width c = limits.size held :=
            Nat.add_sub_cancel_left _ _
          rw [hsize]
          exact ih hs

/-- Giving back stops at the first fit, so every admitted beginning lies within the piece. -/
theorem prefix_longest (hp : p <+: rest) (h : limits.admits p = true) :
    p <+: limits.longest rest := by
  have hs : p.reverse <:+ (limits.proposal rest).reverse :=
    List.reverse_suffix.2 (prefix_proposal hp h)
  have hsize : limits.size p.reverse ≤ limits.maxBytes := by
    rw [size, Measure.size_reverse]
    exact ((limits.admits_iff p).1 h).1
  have hr := limits.suffix_retract hs hsize
  rw [size, Measure.size_reverse] at hr
  rw [longest, ← List.reverse_suffix, List.reverse_reverse]
  exact hr

/-- A piece is pinned down by being an admitted beginning that nothing admitted exceeds. -/
theorem longest_eq_iff : limits.longest rest = p ↔
    p <+: rest ∧ limits.admits p = true ∧ ∀ q, q <+: rest → limits.admits q = true → q <+: p := by
  constructor
  · rintro rfl
    exact ⟨limits.longest_prefix rest, limits.admits_longest rest, fun _ => prefix_longest⟩
  · rintro ⟨hp, ha, hmax⟩
    have hle := hmax _ (limits.longest_prefix rest) (limits.admits_longest rest)
    exact hle.eq_of_length_le (prefix_longest hp ha).length_le

/-- A piece ends where the next code point would not fit. -/
theorem longest_append_eq (ha : limits.admits p = true)
    (hfull : ∀ c, rest.head? = some c → limits.admits (p ++ [c]) = false) :
    limits.longest (p ++ rest) = p := by
  refine longest_eq_iff.2 ⟨List.prefix_append p rest, ha, fun q hq haq => ?_⟩
  obtain ⟨behind, hbehind⟩ := hq
  rcases List.append_eq_append_iff.1 hbehind with ⟨left, rfl, -⟩ | ⟨beyond, rfl, rfl⟩
  · exact List.prefix_append q left
  · cases beyond with
    | nil => simp
    | cons c beyond =>
        have hc : p ++ [c] <:+: p ++ c :: beyond := ⟨[], beyond, by simp⟩
        have hfits := admits_of_infix haq hc
        exact absurd hfits (Bool.eq_false_iff.1 (hfull c rfl))

/-- The code point behind a piece would break one of the caps. -/
theorem admits_longest_concat {c : Char} (h : limits.longest rest ++ [c] <+: rest) :
    limits.admits (limits.longest rest ++ [c]) = false := by
  rw [← Bool.not_eq_true]
  intro ha
  have hle := (prefix_longest h ha).length_le
  rw [List.length_append, List.length_singleton] at hle
  omega

theorem longest_ne_nil {c : Char} (h : limits.width c ≤ limits.maxBytes) (rest : Text) :
    limits.longest (c :: rest) ≠ [] := by
  intro hnil
  have hc := prefix_longest (List.prefix_append [c] rest) ((limits.admits_singleton c).2 h)
  rw [List.singleton_append, hnil] at hc
  exact absurd (List.prefix_nil.1 hc) (List.cons_ne_nil c [])

/-- A competitor's piece that starts no later than a greedy one ends no later either. -/
theorem prefix_lead_append {piece lead : Text} (longest_eq : limits.longest (piece ++ rest) = piece)
    (hq : q <+: lead ++ (piece ++ rest)) (ha : limits.admits q = true) : q <+: lead ++ piece := by
  obtain ⟨behind, hbehind⟩ := hq
  rcases List.append_eq_append_iff.1 hbehind with ⟨left, rfl, -⟩ | ⟨q', rfl, hq'⟩
  · exact (List.prefix_append q left).trans (List.prefix_append _ piece)
  · have ha' : limits.admits q' = true := admits_of_infix ha (List.suffix_append lead q').isInfix
    rw [List.prefix_append_right_inj, ← longest_eq]
    exact prefix_longest (hq' ▸ List.prefix_append q' behind) ha'

/-! ### Greedy cuts -/

/-- Taking the longest piece again and again. -/
inductive Greedy (limits : Limits) : Text → List Text → Prop
  | nil : Greedy limits [] []
  | cons {piece rest : Text} {texts : List Text} (ne_nil : piece ≠ [])
      (longest_eq : limits.longest (piece ++ rest) = piece) (tail : Greedy limits rest texts) :
      Greedy limits (piece ++ rest) (piece :: texts)

namespace Greedy

theorem flatten (h : Greedy limits t texts) : texts.flatten = t := by
  induction h with
  | nil => rfl
  | cons _ _ _ ih => rw [List.flatten_cons, ih]

theorem nil_not_mem (h : Greedy limits t texts) : [] ∉ texts := by
  induction h with
  | nil => exact List.not_mem_nil
  | cons ne_nil _ _ ih =>
      rw [List.mem_cons, not_or]
      exact ⟨ne_nil.symm, ih⟩

theorem admits (h : Greedy limits t texts) : ∀ p ∈ texts, limits.admits p = true := by
  induction h with
  | nil => exact fun p hp => absurd hp List.not_mem_nil
  | cons _ longest_eq _ ih =>
      rw [List.forall_mem_cons]
      exact ⟨longest_eq ▸ limits.admits_longest _, ih⟩

theorem eq_nil_iff (h : Greedy limits t texts) : texts = [] ↔ t = [] := by
  cases h with
  | nil => simp
  | cons ne_nil _ _ => simp [ne_nil]

/-- No piece could have taken the first code point of the piece behind it. -/
theorem isChain (h : Greedy limits t texts) :
    texts.IsChain fun p q => ∃ c, q.head? = some c ∧ limits.admits (p ++ [c]) = false := by
  induction h with
  | nil => exact .nil
  | @cons piece rest texts _ longest_eq tail ih =>
      refine ih.cons fun q hq => ?_
      obtain ⟨behind, rfl⟩ := List.head?_eq_some_iff.1 hq
      cases q with
      | nil => exact absurd List.mem_cons_self tail.nil_not_mem
      | cons c q =>
          -- `c` is the code point right behind the piece, which stopped short of it.
          refine ⟨c, rfl, ?_⟩
          have hp : limits.longest (piece ++ rest) ++ [c] <+: piece ++ rest := by
            rw [longest_eq, ← tail.flatten]
            exact ⟨q ++ behind.flatten, by simp⟩
          rw [← longest_eq]
          exact admits_longest_concat hp

/-- Limits and text leave no choice. -/
theorem unique (h : Greedy limits t texts) (h' : Greedy limits t others) : texts = others := by
  induction h generalizing others with
  | nil => exact (h'.eq_nil_iff.2 rfl).symm
  | @cons piece rest texts ne_nil longest_eq _ ih =>
      generalize ht : piece ++ rest = t at h' longest_eq
      cases h' with
      | nil => exact absurd (List.append_eq_nil_iff.1 ht).1 ne_nil
      | cons _ longest_eq' tail' =>
          obtain rfl := longest_eq.symm.trans longest_eq'
          obtain rfl := List.append_cancel_left ht
          rw [ih tail']

/-- A text has a greedy cut as soon as each of its code points fits on its own. -/
theorem exists_of_width_le (t : Text) (h : ∀ c ∈ t, limits.width c ≤ limits.maxBytes) :
    ∃ texts, Greedy limits t texts := by
  -- On the length: what is left behind a piece is no part of the list that `t` is built from.
  induction hn : t.length using Nat.strong_induction_on generalizing t with
  | _ n ih =>
      cases t with
      | nil => exact ⟨[], .nil⟩
      | cons c rest =>
          have ne_nil := longest_ne_nil (h c List.mem_cons_self) rest
          obtain ⟨behind, hb⟩ := limits.longest_prefix (c :: rest)
          have hlen : behind.length < n := by
            have hpos := List.length_pos_of_ne_nil ne_nil
            rw [← hn, ← hb, List.length_append]
            omega
          have hfit : ∀ d ∈ behind, limits.width d ≤ limits.maxBytes := fun d hd =>
            h d (hb ▸ List.mem_append_right _ hd)
          obtain ⟨texts, ht⟩ := ih _ hlen behind hfit rfl
          refine ⟨limits.longest (c :: rest) :: texts, ?_⟩
          have hcut := Greedy.cons ne_nil (by rw [hb]) ht
          rwa [hb] at hcut

/-- After any number of pieces the greedy cut has come at least as far as a competing one, which
has to cover `lead` before it starts on what the greedy cut covers. -/
theorem stays_ahead (h : Greedy limits t texts) (lead : Text) (hcover : others.flatten = lead ++ t)
    (hfit : ∀ p ∈ others, limits.admits p = true) (k : Nat) :
    (others.take k).flatten.length ≤ lead.length + (texts.take k).flatten.length := by
  induction k generalizing t texts others lead with
  | zero => simp
  | succ k ih =>
      cases others with
      | nil => simp
      | cons q others =>
          rw [List.flatten_cons] at hcover
          cases h with
          | nil =>
              have hle := (prefix_flatten_take (k + 1) (q :: others)).length_le
              rw [List.flatten_cons, hcover, List.append_nil] at hle
              omega
          | @cons piece rest texts _ longest_eq tail =>
              have hq : q <+: lead ++ (piece ++ rest) := hcover ▸ List.prefix_append q _
              obtain ⟨ahead, hahead⟩ :=
                prefix_lead_append longest_eq hq (hfit q List.mem_cons_self)
              -- `ahead` is the next lead: what the greedy cut covers beyond the competitor.
              have hrest : others.flatten = ahead ++ rest := by
                rw [← List.append_assoc, ← hahead, List.append_assoc] at hcover
                exact List.append_cancel_left hcover
              have hle := ih tail ahead hrest fun p hp => hfit p (List.mem_cons_of_mem q hp)
              have hlen := congrArg List.length hahead
              simp only [List.take_succ_cons, List.flatten_cons, List.length_append] at hlen ⊢
              omega

/-- As many greedy pieces as the competitor has reach the end of the text. -/
theorem length_le_of_flatten_eq (h : Greedy limits t texts) (hcover : others.flatten = t)
    (hfit : ∀ p ∈ others, limits.admits p = true) : texts.length ≤ others.length := by
  have hahead := h.stays_ahead [] hcover hfit others.length
  rw [List.take_length, hcover, List.length_nil, Nat.zero_add] at hahead
  have hsplit : (texts.take others.length).flatten.length +
      (texts.drop others.length).flatten.length = t.length := by
    rw [← List.length_append, ← List.flatten_append, List.take_append_drop, h.flatten]
  have hdrop : (texts.drop others.length).flatten = [] :=
    List.eq_nil_of_length_eq_zero (by omega)
  refine List.drop_eq_nil_iff.1 (List.eq_nil_iff_forall_not_mem.2 fun p hp => ?_)
  have hempty : p = [] := List.flatten_eq_nil_iff.1 hdrop p hp
  exact h.nil_not_mem (hempty ▸ List.mem_of_mem_drop hp)

/-- The first piece of a greedy cut is the longest one, and what remains is cut alike. -/
theorem iff_of_longest_eq {piece : Text} (longest_eq : limits.longest t = piece)
    (ne_nil : piece ≠ []) :
    Greedy limits t texts ↔
      ∃ others, texts = piece :: others ∧ Greedy limits (t.drop piece.length) others := by
  constructor
  · intro h
    cases h with
    | nil => exact absurd (List.prefix_nil.1 (limits.longest_prefix [])) (longest_eq ▸ ne_nil)
    | cons _ longest_eq' tail =>
        obtain rfl := longest_eq'.symm.trans longest_eq
        exact ⟨_, rfl, by rwa [List.drop_left]⟩
  · rintro ⟨others, rfl, tail⟩
    obtain ⟨behind, rfl⟩ : piece <+: t := longest_eq ▸ limits.longest_prefix t
    rw [List.drop_left] at tail
    exact .cons ne_nil longest_eq tail

end Greedy

/-! ### The cut -/

theorem pieces_eq_ok_iff (offset : Nat) (cut : List Text) :
    limits.pieces offset cut t = .ok texts ↔
      ∃ others, texts = cut.reverse ++ others ∧ Greedy limits t others := by
  fun_induction limits.pieces offset cut t with
  | case1 offset cut =>
      constructor
      · intro h
        cases h
        exact ⟨[], (List.append_nil _).symm, .nil⟩
      · rintro ⟨others, rfl, h⟩
        rw [h.eq_nil_iff.2 rfl, List.append_nil]
  | case2 offset cut c rest hnil =>
      constructor
      · intro h
        cases h
      · rintro ⟨others, -, h⟩
        generalize ht : c :: rest = t at h hnil
        cases h with
        | nil => cases ht
        | cons ne_nil longest_eq _ => exact absurd (longest_eq.symm.trans hnil) ne_nil
  | case3 offset cut c rest d piece hp ih =>
      rw [ih]
      simp only [Greedy.iff_of_longest_eq hp (List.cons_ne_nil d piece), List.length_cons,
        List.drop_succ_cons, List.reverse_cons, List.append_assoc, List.singleton_append]
      constructor
      · rintro ⟨others, rfl, h⟩
        exact ⟨_, rfl, others, rfl, h⟩
      · rintro ⟨_, rfl, others, rfl, h⟩
        exact ⟨others, rfl, h⟩

/-- The texts of the fragments of a cut. The empty text is one empty fragment. -/
inductive IsCut (limits : Limits) : Text → List Text → Prop
  | empty : IsCut limits [] [[]]
  | greedy {t : Text} {texts : List Text} (ne_nil : t ≠ []) (h : Greedy limits t texts) :
      IsCut limits t texts

theorem cut_eq_ok_iff {fs : List Fragment} :
    limits.cut t = .ok fs ↔ ∃ texts, IsCut limits t texts ∧ fs = Fragment.layOut texts := by
  cases t with
  | nil =>
      simp only [cut, List.isEmpty_nil, if_true, Except.ok.injEq]
      constructor
      · rintro rfl
        exact ⟨_, .empty, rfl⟩
      · rintro ⟨texts, h, rfl⟩
        cases h with
        | empty => rfl
        | greedy ne_nil _ => exact absurd rfl ne_nil
  | cons c rest =>
      have hpieces : limits.cut (c :: rest) = .ok fs ↔
          ∃ texts, limits.pieces 0 [] (c :: rest) = .ok texts ∧ fs = Fragment.layOut texts := by
        rw [cut, List.isEmpty_cons, if_neg Bool.false_ne_true]
        cases limits.pieces 0 [] (c :: rest) <;> simp [Except.map, eq_comm]
      simp only [hpieces, pieces_eq_ok_iff, List.reverse_nil, List.nil_append, exists_eq_left']
      constructor
      · rintro ⟨texts, h, rfl⟩
        exact ⟨texts, .greedy (List.cons_ne_nil c rest) h, rfl⟩
      · rintro ⟨texts, h, rfl⟩
        cases h with
        | greedy _ h => exact ⟨texts, h, rfl⟩

namespace IsCut

theorem ne_nil (h : IsCut limits t texts) : texts ≠ [] := by
  cases h with
  | empty => exact List.cons_ne_nil [] []
  | greedy ne_nil h => exact mt h.eq_nil_iff.1 ne_nil

theorem flatten (h : IsCut limits t texts) : texts.flatten = t := by
  cases h with
  | empty => rfl
  | greedy _ h => exact h.flatten

theorem admits (h : IsCut limits t texts) : ∀ p ∈ texts, limits.admits p = true := by
  cases h with
  | empty => simp
  | greedy _ h => exact h.admits

theorem isChain (h : IsCut limits t texts) :
    texts.IsChain fun p q => ∃ c, q.head? = some c ∧ limits.admits (p ++ [c]) = false := by
  cases h with
  | empty => exact .singleton []
  | greedy _ h => exact h.isChain

/-- Only the empty text has an empty fragment. -/
theorem eq_nil_of_mem (h : IsCut limits t texts) (hmem : [] ∈ texts) : t = [] := by
  cases h with
  | empty => rfl
  | greedy _ h => exact absurd hmem h.nil_not_mem

end IsCut

theorem admits_of_cut {fs : List Fragment} (h : limits.cut t = .ok fs) :
    ∀ f ∈ fs, limits.admits f.text = true := by
  obtain ⟨texts, hcut, rfl⟩ := cut_eq_ok_iff.1 h
  intro f hf
  have hmem : f.text ∈ texts := by
    rw [← Fragment.layOut_map_text texts]
    exact List.mem_map_of_mem hf
  exact hcut.admits f.text hmem

/-- A text that can be cut within the limits at all has a cut, and none has fewer pieces. -/
theorem exists_isCut_length_le (hne : others ≠ []) (hcover : others.flatten = t)
    (hfit : ∀ p ∈ others, limits.admits p = true) :
    ∃ texts, IsCut limits t texts ∧ texts.length ≤ others.length := by
  by_cases ht : t = []
  · subst ht
    exact ⟨_, .empty, List.length_pos_of_ne_nil hne⟩
  · have hwidth : ∀ c ∈ t, limits.width c ≤ limits.maxBytes := by
      intro c hc
      obtain ⟨p, hp, hcp⟩ := List.mem_flatten.1 (hcover ▸ hc)
      exact width_le_of_mem (hfit p hp) hcp
    obtain ⟨texts, h⟩ := Greedy.exists_of_width_le t hwidth
    exact ⟨texts, .greedy ht h, h.length_le_of_flatten_eq hcover hfit⟩

namespace IsCut

theorem unique (h : IsCut limits t texts) (h' : IsCut limits t others) : texts = others := by
  cases h with
  | empty =>
      cases h' with
      | empty => rfl
      | greedy ne_nil _ => exact absurd rfl ne_nil
  | greedy ne_nil h =>
      cases h' with
      | empty => exact absurd rfl ne_nil
      | greedy _ h' => exact h.unique h'

theorem length_le_of_flatten_eq (h : IsCut limits t texts) (hne : others ≠ [])
    (hcover : others.flatten = t) (hfit : ∀ p ∈ others, limits.admits p = true) :
    texts.length ≤ others.length := by
  obtain ⟨texts', h', hlen⟩ := exists_isCut_length_le hne hcover hfit
  rwa [h.unique h']

/-- One fragment is enough exactly for a text that fits one constant. -/
theorem length_eq_one_iff (h : IsCut limits t texts) :
    texts.length = 1 ↔ limits.admits t = true := by
  constructor
  · intro hlen
    obtain ⟨p, rfl⟩ := List.length_eq_one_iff.1 hlen
    have hp : p = t := by simpa using h.flatten
    exact hp ▸ h.admits p List.mem_cons_self
  · intro ha
    have hle : texts.length ≤ [t].length :=
      h.length_le_of_flatten_eq (List.cons_ne_nil t []) (by simp) (by simpa using ha)
    exact Nat.le_antisymm hle (List.length_pos_of_ne_nil h.ne_nil)

end IsCut

/-- However else a text may be cut within the caps, its cut succeeds and has no more fragments. -/
theorem cut_fewest (t : Text) {others : List Text} (hne : others ≠ []) (hcover : others.flatten = t)
    (hfit : ∀ p ∈ others, p.length ≤ limits.maxLength ∧ limits.size p ≤ limits.maxBytes) :
    ∃ fs, limits.cut t = .ok fs ∧ fs.length ≤ others.length := by
  have hadmits : ∀ p ∈ others, limits.admits p = true := fun p hp =>
    (limits.admits_iff p).2 (hfit p hp).symm
  obtain ⟨texts, hcut, hlen⟩ := exists_isCut_length_le hne hcover hadmits
  refine ⟨_, cut_eq_ok_iff.2 ⟨texts, hcut, rfl⟩, ?_⟩
  rw [Fragment.layOut_length]
  exact hlen

/-- Three code points and six class-file bytes, so that either cap can be the one that binds. -/
def tight : Limits where
  maxLength := 3
  maxBytes := 6
  measure := .modifiedUtf8
  maxLength_pos := by decide
  maxBytes_pos := by decide

/-- Code points of one, two and six class-file bytes. -/
def mixedWidths : Text := ['a', '\x00', 'é', '😀', 'b']

/-- A cut of `mixedWidths` that respects the caps and wastes a piece. -/
def looseCut : List Text := [['a'], ['\x00', 'é'], ['😀'], ['b']]

theorem cut_fewest_mixedWidths :
    looseCut ≠ [] ∧ looseCut.flatten = mixedWidths ∧
      (∀ p ∈ looseCut, p.length ≤ tight.maxLength ∧ tight.size p ≤ tight.maxBytes) ∧
      ∃ fs, tight.cut mixedWidths = .ok fs ∧ fs.length ≤ looseCut.length :=
  ⟨by decide, rfl, by decide, cut_fewest mixedWidths (by decide) rfl (by decide)⟩

end Limits

end LiteralPack
