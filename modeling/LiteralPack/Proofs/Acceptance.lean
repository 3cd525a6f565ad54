import Mathlib.Data.List.Chain
import LiteralPack.Verify.Accessors

/-!
What the verifier of a set of accessors accepts, as one statement about the set and the texts its
literals decode to. Each check is turned into the property that it decides, and acceptance is
their conjunction.
-/

namespace LiteralPack

section Checks

variable {ε α β : Type} {a : α} {b : β} {e e' : ε}

theorem bind_eq_ok_iff {x : Except ε α} {f : α → Except ε β} :
    x >>= f = .ok b ↔ ∃ a, x = .ok a ∧ f a = .ok b := by
  cases x with
  | error e => exact ⟨nofun, nofun⟩
  | ok a =>
      constructor
      · exact fun h => ⟨a, rfl, h⟩
      · rintro ⟨a', ha, h⟩
        cases ha
        exact h

theorem bind_eq_error_iff {x : Except ε α} {f : α → Except ε β} :
    x >>= f = .error e ↔ x = .error e ∨ ∃ a, x = .ok a ∧ f a = .error e := by
  cases x with
  | error e' =>
      constructor
      · intro h
        cases h
        exact .inl rfl
      · rintro (h | ⟨a, ha, -⟩)
        · cases h
          rfl
        · cases ha
  | ok a =>
      constructor
      · exact fun h => .inr ⟨a, rfl, h⟩
      · rintro (h | ⟨a', ha, h⟩)
        · cases h
        · cases ha
          exact h

theorem throw_or_eq_ok_iff {p : Prop} [Decidable p] {f : β → Except ε α} {x : Except ε α} :
    (if p then throw e >>= f else x) = .ok a ↔ ¬ p ∧ x = .ok a := by
  by_cases hp : p
  · rw [if_pos hp]
    exact ⟨nofun, fun h => absurd hp h.1⟩
  · rw [if_neg hp]
    exact ⟨fun h => ⟨hp, h⟩, And.right⟩

theorem throw_or_eq_error_iff {p : Prop} [Decidable p] {f : β → Except ε α} {x : Except ε α} :
    (if p then throw e >>= f else x) = .error e' ↔ p ∧ e = e' ∨ ¬ p ∧ x = .error e' := by
  by_cases hp : p
  · rw [if_pos hp]
    constructor
    · intro h
      cases h
      exact .inl ⟨hp, rfl⟩
    · rintro (⟨-, rfl⟩ | ⟨hn, -⟩)
      · rfl
      · exact absurd hp hn
  · simp [hp]

theorem throw_or_pure_eq_ok_iff {p : Prop} [Decidable p] :
    (if p then throw e else pure () : Except ε Unit) = .ok () ↔ ¬ p := by
  by_cases hp : p
  · rw [if_pos hp]
    exact ⟨nofun, fun h => absurd hp h⟩
  · rw [if_neg hp]
    exact ⟨fun _ => hp, fun _ => rfl⟩

end Checks

namespace Verify

variable {limits : Limits} {source : Text} {set : Accessors} {texts : List Text}

theorem repeatedName?_eq_none_iff (seen : Std.HashSet String) (names : List String) :
    repeatedName? seen names = none ↔ names.Nodup ∧ ∀ name ∈ names, name ∉ seen := by
  induction names generalizing seen with
  | nil => simp [repeatedName?]
  | cons name names ih =>
      by_cases hseen : name ∈ seen
      · simp [repeatedName?, hseen]
      · rw [repeatedName?, if_neg (mt Std.HashSet.contains_iff_mem.1 hseen), ih, List.nodup_cons,
          List.forall_mem_cons]
        simp only [Std.HashSet.mem_insert, beq_iff_eq, not_or]
        constructor
        · rintro ⟨hnodup, hnew⟩
          exact ⟨⟨fun hmem => (hnew name hmem).1 rfl, hnodup⟩, hseen, fun n hn => (hnew n hn).2⟩
        · rintro ⟨⟨hmem, hnodup⟩, -, hnew⟩
          exact ⟨hnodup, fun n hn => ⟨fun h => hmem (h ▸ hn), hnew n hn⟩⟩

theorem repeatedName?_empty_eq_none_iff (names : List String) :
    repeatedName? ∅ names = none ↔ names.Nodup := by
  simp [repeatedName?_eq_none_iff]

theorem bounds_eq_ok_iff_admits (index : Nat) (t : Text) :
    bounds limits index t = .ok () ↔ limits.admits t = true := by
  rw [bounds_eq_ok_iff, Limits.admits_iff, and_comm]

/-- Literals pass one by one if they are numbered in order and decode to texts within the limits. -/
theorem decodedFrom_eq_ok_iff (position : Nat) (decoded : List Text) (literals : List Literal) :
    decodedFrom limits position decoded literals = .ok texts ↔
      ∃ others, texts = decoded.reverse ++ others ∧
        literals.map Literal.index = List.range' position literals.length ∧
        List.Forall₂ (fun l t => Literal.decode l.body = .ok t) literals others ∧
        ∀ t ∈ others, limits.admits t = true := by
  induction literals generalizing position decoded with
  | nil =>
      simp only [decodedFrom, List.map_nil, List.length_nil, List.range'_zero, true_and,
        List.forall₂_nil_left_iff, Except.ok.injEq]
      constructor
      · rintro rfl
        exact ⟨[], (List.append_nil _).symm, rfl, by simp⟩
      · rintro ⟨_, rfl, rfl, -⟩
        exact (List.append_nil _).symm
  | cons literal literals ih =>
      simp only [List.map_cons, List.length_cons, List.range'_succ, List.cons.injEq,
        List.forall₂_cons_left_iff, decodedFrom]
      by_cases hindex : literal.index = position
      · rw [if_neg (not_not_intro hindex)]
        cases hd : Literal.decode literal.body with
        | error cause => simp
        | ok t =>
            by_cases hfit : limits.admits t = true
            · simp only [(bounds_eq_ok_iff_admits position t).2 hfit, ih, List.reverse_cons,
                List.append_assoc, List.singleton_append, hindex, true_and]
              constructor
              · rintro ⟨others, rfl, hindices, hdecoded, hwithin⟩
                exact ⟨t :: others, rfl, hindices, ⟨t, others, rfl, hdecoded, rfl⟩,
                  List.forall_mem_cons.2 ⟨hfit, hwithin⟩⟩
              · rintro ⟨_, rfl, hindices, ⟨t', others, ht, hdecoded, rfl⟩, hwithin⟩
                cases ht
                exact ⟨others, rfl, hindices, hdecoded, (List.forall_mem_cons.1 hwithin).2⟩
            · cases hbounds : bounds limits position t with
              | error violation =>
                  simp only [hbounds]
                  constructor
                  · intro h
                    cases h
                  · rintro ⟨_, -, -, ⟨t', others, ht, -, rfl⟩, hwithin⟩
                    cases ht
                    exact absurd (hwithin t List.mem_cons_self) hfit
              | ok _ => exact absurd ((bounds_eq_ok_iff_admits position t).1 hbounds) hfit
      · simp [hindex]

theorem couldGrow_cons (limits : Limits) (s t : Text) (c : Char) :
    couldGrow limits s (c :: t) = limits.admits (s ++ [c]) := by
  rw [Bool.eq_iff_iff, Limits.admits_iff, couldGrow, hasRoom, Bool.and_eq_true, decide_eq_true_eq,
    decide_eq_true_eq, and_comm]
  simp only [Limits.size, Measure.size_append, List.length_append]
  rfl

theorem maximalFrom_eq_ok_iff (index : Nat) (texts : List Text) :
    maximalFrom limits index texts = .ok () ↔
      texts.IsChain fun s t => couldGrow limits s t = false := by
  induction texts generalizing index with
  | nil => simp [maximalFrom]
  | cons s texts ih =>
      cases texts with
      | nil => simp [maximalFrom]
      | cons t texts =>
          rw [maximalFrom, List.isChain_cons_cons, ← ih (index + 1)]
          cases couldGrow limits s t <;> simp

/-- What acceptance says of a set whose literals decode to `texts`. -/
structure Accepted (limits : Limits) (source : Text) (set : Accessors) (texts : List Text) :
    Prop where
  literals_ne_nil : set.literals ≠ []
  isChunked_eq : set.isChunked = decide (1 < set.literals.length)
  nodup_names : (set.name :: set.assembly).Nodup
  numbered : set.literals.map Literal.index = List.range set.literals.length
  decoded : List.Forall₂ (fun l t => Literal.decode l.body = .ok t) set.literals texts
  within : ∀ t ∈ texts, limits.admits t = true
  flatten_eq : texts.flatten = source
  isChain : texts.IsChain fun s t => couldGrow limits s t = false

def reportOf (limits : Limits) (source : Text) (set : Accessors) (texts : List Text) : Report where
  fragments := texts.length
  chars := source.length
  bytes := limits.size source
  largestFragmentBytes := (texts.map limits.size).foldl max 0
  chunked := set.isChunked

namespace Accepted

variable (h : Accepted limits source set texts)

include h

theorem map_decode : set.literals.map (fun l => Literal.decode l.body) = texts.map .ok := by
  rw [← List.forall₂_eq_eq_eq, List.forall₂_map_left_iff, List.forall₂_map_right_iff]
  exact h.decoded

theorem ne_nil : texts ≠ [] := by
  intro hnil
  have hdecoded := h.decoded
  rw [hnil, List.forall₂_nil_right_iff] at hdecoded
  exact h.literals_ne_nil hdecoded

theorem fragments_reportOf : (reportOf limits source set texts).fragments = set.count :=
  h.decoded.length_eq.symm

theorem chunked_reportOf : (reportOf limits source set texts).chunked =
    decide (1 < (reportOf limits source set texts).fragments) := by
  rw [h.fragments_reportOf]
  exact h.isChunked_eq

theorem max?_map_size : (texts.map limits.size).max? =
    some (reportOf limits source set texts).largestFragmentBytes := by
  have hne := h.ne_nil
  cases texts with
  | nil => exact absurd rfl hne
  | cons t texts =>
      rw [List.map_cons, List.max?_cons', reportOf, List.map_cons, List.foldl_cons, Nat.zero_max]

theorem largestFragmentBytes_le :
    (reportOf limits source set texts).largestFragmentBytes ≤ limits.maxBytes := by
  obtain ⟨t, ht, hsize⟩ := List.mem_map.1 (List.max?_mem h.max?_map_size)
  rw [← hsize]
  exact ((limits.admits_iff t).1 (h.within t ht)).1

end Accepted

theorem accessors_eq_ok_iff {report : Report} :
    accessors limits source set = .ok report ↔
      ∃ texts, Accepted limits source set texts ∧ report = reportOf limits source set texts := by
  have hnames := repeatedName?_empty_eq_none_iff (set.name :: set.assembly)
  simp only [accessors, throw_or_eq_ok_iff, List.isEmpty_iff, not_not]
  cases hrepeated : repeatedName? ∅ (set.name :: set.assembly) with
  | some name =>
      constructor
      · rintro ⟨-, -, h⟩
        cases h
      · rintro ⟨texts, h, -⟩
        cases hrepeated.symm.trans (hnames.2 h.nodup_names)
  | none =>
      simp only [bind_eq_ok_iff, decodedFrom_eq_ok_iff, List.reverse_nil, List.nil_append,
        ← List.range_eq_range']
      constructor
      · rintro ⟨hne, hshape, texts, ⟨_, rfl, hindices, hdecoded, hwithin⟩, _, hsame, _, hmaximal, h⟩
        cases h
        have hflatten := (sameText_eq_ok_iff _ _).1 hsame
        have hchain := (maximalFrom_eq_ok_iff 0 texts).1 hmaximal
        exact ⟨texts, ⟨hne, hshape, hnames.1 hrepeated, hindices, hdecoded, hwithin, hflatten,
          hchain⟩, rfl⟩
      · rintro ⟨texts, h, rfl⟩
        have hsame := (sameText_eq_ok_iff _ _).2 h.flatten_eq
        have hmaximal := (maximalFrom_eq_ok_iff 0 texts).2 h.isChain
        exact ⟨h.literals_ne_nil, h.isChunked_eq, texts,
          ⟨texts, rfl, h.numbered, h.decoded, h.within⟩, (), hsame, (), hmaximal, rfl⟩

end Verify

end LiteralPack
