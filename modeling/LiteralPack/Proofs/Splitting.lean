import Mathlib.Data.List.DropRight
import Mathlib.Data.List.Infix
import Mathlib.Data.List.TakeWhile
import LiteralPack.Text.Words

/-!
Texts that are put together and taken apart again: lines that end in a separator, words with blanks
between them, blanks around a text, and the two sides of the first or the last character of some
kind.
-/

namespace LiteralPack.Text

variable {separator : Char → Bool} {s t w : Text} {ws : List Text} {c d : Char}

theorem beq_eq_false_of_not_mem (h : c ∉ t) : ∀ d ∈ t, (d == c) = false := by
  intro d hd
  rw [beq_eq_false_iff_ne]
  exact fun hdc => h (hdc ▸ hd)

theorem segments_eq_singleton (h : ∀ c ∈ t, separator c = false) : segments separator t = [t] := by
  induction t with
  | nil => rfl
  | cons c t ih =>
      rw [List.forall_mem_cons] at h
      rw [segments_cons, h.1, ih h.2]
      rfl

theorem segments_eq_splitOnP (separator : Char → Bool) (t : Text) :
    segments separator t = t.splitOnP separator := by
  induction t with
  | nil => rfl
  | cons c t ih =>
      rw [segments_cons, List.splitOnP_cons_eq_if_modifyHead, ih]
      split
      · rfl
      · cases hsegments : t.splitOnP separator with
        | nil => exact absurd hsegments (List.splitOnP_ne_nil separator t)
        | cons s rest => rfl

theorem intercalate_segments (c : Char) (t : Text) : [c].intercalate (segments (· == c) t) = t := by
  rw [segments_eq_splitOnP]
  exact List.intercalate_splitOn c

theorem intercalate_concat {parts : List Text} (hne : parts ≠ []) (s : Text) :
    [c].intercalate (parts ++ [s]) = [c].intercalate parts ++ c :: s := by
  induction parts with
  | nil => exact absurd rfl hne
  | cons p parts ih =>
      cases parts with
      | nil => simp
      | cons q parts =>
          have ih := ih (List.cons_ne_nil q parts)
          simp only [List.cons_append, List.intercalate_cons_cons] at ih ⊢
          rw [ih, List.append_assoc, List.append_assoc]
          simp

/-- Two parts would have the separator between them. -/
theorem eq_singleton_of_not_mem_intercalate {parts : List Text} (hne : parts ≠ [])
    (h : c ∉ [c].intercalate parts) : parts = [[c].intercalate parts] := by
  match parts, hne with
  | [p], _ => rw [List.intercalate_singleton]
  | p :: q :: parts, _ =>
      rw [List.intercalate_cons_cons] at h
      exact absurd (by simp) h

theorem segments_intercalate {parts : List Text} (hne : parts ≠ []) (h : ∀ p ∈ parts, c ∉ p) :
    segments (· == c) ([c].intercalate parts) = parts := by
  rw [segments_eq_splitOnP]
  exact List.splitOn_intercalate c h hne

/-- Segments that are each followed by a separator, with nothing behind the last one. -/
theorem segments_flatMap_concat {lines : List Text} (h : ∀ l ∈ lines, c ∉ l) :
    segments (· == c) (lines.flatMap (· ++ [c])) = lines ++ [[]] := by
  induction lines with
  | nil => rfl
  | cons l lines ih =>
      rw [List.forall_mem_cons] at h
      have hfirst : segments (· == c) l = [l] := segments_eq_singleton (beq_eq_false_of_not_mem h.1)
      rw [List.flatMap_cons, List.append_assoc, List.singleton_append,
        segments_append_cons (· == c) (beq_self_eq_true c), hfirst, ih h.2]
      rfl

/-- Every character that is no separator lies in one of the segments. -/
theorem exists_mem_segments (separator : Char → Bool) (hc : c ∈ t) (hsep : separator c = false) :
    ∃ s ∈ segments separator t, c ∈ s := by
  obtain ⟨before, behind, rfl⟩ := List.append_of_mem hc
  clear hc
  induction before with
  | nil =>
      rw [List.nil_append, segments_cons, hsep]
      cases segments separator behind <;> simp [extend]
  | cons d before ih =>
      obtain ⟨s, hs, hcs⟩ := ih
      rw [List.cons_append, segments_cons]
      split
      · exact ⟨s, List.mem_cons_of_mem [] hs, hcs⟩
      · cases hsegments : segments separator (before ++ c :: behind) with
        | nil => exact absurd hsegments (segments_ne_nil separator _)
        | cons first rest =>
            rw [hsegments, List.mem_cons] at hs
            rcases hs with rfl | hs
            · exact ⟨d :: s, List.mem_cons_self, List.mem_cons_of_mem d hcs⟩
            · exact ⟨s, List.mem_cons_of_mem _ hs, hcs⟩

/-! ### Blanks and words -/

/-- White space and nothing else. -/
def Blanks (t : Text) : Prop := ∀ c ∈ t, Unicode.isBlank c = true

theorem blanks_nil : Blanks [] := List.forall_mem_nil _

theorem blanks_append_iff : Blanks (s ++ t) ↔ Blanks s ∧ Blanks t := List.forall_mem_append

theorem Blanks.not_mem (h : Blanks t) (hc : Unicode.isBlank c = false) : c ∉ t := fun hmem => by
  rw [h c hmem] at hc
  cases hc

theorem blanks_takeWhile (t : Text) : Blanks (t.takeWhile Unicode.isBlank) :=
  fun _ => List.mem_takeWhile_imp

theorem trimLeft_eq_nil_iff : trimLeft t = [] ↔ Blanks t := List.dropWhile_eq_nil_iff

theorem trimRight_eq_nil_iff : trimRight t = [] ↔ Blanks t := List.rdropWhile_eq_nil_iff

theorem trim_eq_nil_iff : trim t = [] ↔ Blanks t := by
  refine trimRight_eq_nil_iff.trans ⟨fun h => ?_, fun h => ?_⟩
  · rw [← List.takeWhile_append_dropWhile (p := Unicode.isBlank) (l := t), blanks_append_iff]
    exact ⟨blanks_takeWhile t, h⟩
  · rw [trimLeft_eq_nil_iff.2 h]
    exact blanks_nil

theorem exists_append_dropRightWhile (p : Char → Bool) (t : Text) :
    ∃ s, (∀ c ∈ s, p c = true) ∧ t = dropRightWhile p t ++ s :=
  ⟨t.rtakeWhile p, fun _ => List.mem_rtakeWhile_imp, List.rdropWhile_append_rtakeWhile.symm⟩

/-- Trimming takes blanks off both ends. -/
theorem exists_append_trim (t : Text) :
    ∃ s s', Blanks s ∧ Blanks s' ∧ t = s ++ (trim t ++ s') := by
  obtain ⟨s', hs', h⟩ := exists_append_dropRightWhile Unicode.isBlank (trimLeft t)
  refine ⟨_, s', blanks_takeWhile t, hs', ?_⟩
  rw [trim, trimRight, ← h]
  exact List.takeWhile_append_dropWhile.symm

theorem dropRightWhile_append_of_pos {p : Char → Bool} (hs : ∀ c ∈ s, p c = true) (t : Text) :
    dropRightWhile p (t ++ s) = dropRightWhile p t := by
  rw [dropRightWhile, List.reverse_append,
    List.dropWhile_append_of_pos fun c hc => hs c (List.mem_reverse.1 hc)]
  rfl

theorem dropRightWhile_eq_self {p : Char → Bool} (ht : ∀ c, t.getLast? = some c → p c = false) :
    dropRightWhile p t = t := by
  refine List.rdropWhile_eq_self_iff.2 fun hne => ?_
  rw [Bool.not_eq_true]
  exact ht _ (List.getLast?_eq_some_getLast hne)

/-- A text with no blank at either end. -/
structure Tight (t : Text) : Prop where
  head : ∃ c, t.head? = some c ∧ Unicode.isBlank c = false
  last : ∃ c, t.getLast? = some c ∧ Unicode.isBlank c = false

theorem tight_of_forall (hne : t ≠ []) (h : ∀ c ∈ t, Unicode.isBlank c = false) : Tight t :=
  ⟨⟨t.head hne, List.head?_eq_some_head hne, h _ (List.head_mem hne)⟩,
    ⟨t.getLast hne, List.getLast?_eq_some_getLast hne, h _ (List.getLast_mem hne)⟩⟩

theorem Tight.append (hs : Tight s) (ht : Tight t) (w : Text) : Tight (s ++ (w ++ t)) := by
  obtain ⟨c, hc, hc'⟩ := hs.head
  obtain ⟨d, hd, hd'⟩ := ht.last
  refine ⟨⟨c, ?_, hc'⟩, d, ?_, hd'⟩
  · rw [List.head?_append, hc, Option.some_or]
  · rw [List.getLast?_append, List.getLast?_append, hd, Option.some_or, Option.some_or]

theorem Tight.trimRight_append (ht : Tight t) (hs : Blanks s) : trimRight (t ++ s) = t := by
  obtain ⟨c, hc, hc'⟩ := ht.last
  rw [trimRight, dropRightWhile_append_of_pos hs]
  refine dropRightWhile_eq_self fun d hd => ?_
  obtain rfl := Option.some_inj.1 (hc.symm.trans hd)
  exact hc'

/-- Trimming takes off the blanks around a text and no more. -/
theorem Tight.trim_append (ht : Tight t) (hs : Blanks s) {s' : Text} (hs' : Blanks s') :
    trim (s ++ (t ++ s')) = t := by
  obtain ⟨c, hc, hc'⟩ := ht.head
  have hleft : trimLeft (s ++ (t ++ s')) = t ++ s' := by
    obtain ⟨rest, rfl⟩ := List.head?_eq_some_iff.1 hc
    rw [trimLeft, List.dropWhile_append_of_pos hs, List.cons_append,
      List.dropWhile_cons_of_neg (by simp [hc'])]
  rw [trim, hleft, ht.trimRight_append hs']

theorem words_blanks_append (hs : Blanks s) (t : Text) : words (s ++ t) = words t := by
  induction s with
  | nil => rfl
  | cons c s ih =>
      rw [Blanks, List.forall_mem_cons] at hs
      rw [List.cons_append, ← List.nil_append (c :: (s ++ t)), words_append_cons hs.1, ih hs.2]
      rfl

theorem words_eq_nil_of_blanks (hs : Blanks s) : words s = [] := by
  rw [← List.append_nil s, words_blanks_append hs]
  rfl

/-- Blanks end a word. -/
theorem words_append_blanks_append (hs : Blanks s) (hne : s ≠ []) (w t : Text) :
    words (w ++ (s ++ t)) = words w ++ words t := by
  obtain ⟨c, s, rfl⟩ := List.exists_cons_of_ne_nil hne
  rw [Blanks, List.forall_mem_cons] at hs
  rw [List.cons_append, words_append_cons hs.1, words_blanks_append hs.2]

theorem words_append_blanks (hs : Blanks s) (t : Text) : words (t ++ s) = words t := by
  by_cases hne : s = []
  · rw [hne, List.append_nil]
  · rw [← List.append_nil s, words_append_blanks_append hs hne]
    exact List.append_nil _

theorem words_trim (t : Text) : words (trim t) = words t := by
  obtain ⟨s, s', hs, hs', ht⟩ := exists_append_trim t
  conv_rhs => rw [ht, words_blanks_append hs, words_append_blanks hs']

theorem words_eq_singleton (hne : t ≠ []) (h : ∀ c ∈ t, Unicode.isBlank c = false) :
    words t = [t] := by
  rw [words, segments_eq_singleton h]
  simpa using hne

theorem blanks_of_words_eq_nil (h : words t = []) : Blanks t := by
  intro c hc
  rw [← Bool.not_eq_false]
  intro hblank
  obtain ⟨s, hs, hcs⟩ := exists_mem_segments Unicode.isBlank hc hblank
  have hmem : s ∈ words t := List.mem_filter.2 ⟨hs, by cases s <;> simp_all⟩
  rw [h] at hmem
  cases hmem

theorem words_append_of_head? (hne : w ≠ []) (hw : ∀ c ∈ w, Unicode.isBlank c = false)
    (ht : ∀ c, t.head? = some c → Unicode.isBlank c = true) : words (w ++ t) = w :: words t := by
  have hword : words w = [w] := words_eq_singleton hne hw
  cases t with
  | nil => rw [List.append_nil, hword, words_eq_nil_of_blanks blanks_nil]
  | cons c t =>
      have hc : Blanks [c] := by simpa [Blanks] using ht c rfl
      rw [words_append_cons (ht c rfl), hword]
      exact congrArg (w :: ·) (words_blanks_append hc t).symm

/-- A first word stands behind the blanks in front of it, and blanks stand between it and another
word. -/
theorem exists_of_words_eq_cons (h : words t = w :: ws) :
    ∃ rest, t = t.takeWhile Unicode.isBlank ++ (w ++ rest) ∧ words rest = ws ∧
      (ws ≠ [] → rest.takeWhile Unicode.isBlank ≠ []) := by
  have ht : t = t.takeWhile Unicode.isBlank ++ trimLeft t :=
    List.takeWhile_append_dropWhile.symm
  have hwords : words (trimLeft t) = w :: ws := by
    rw [← h, ht, words_blanks_append (blanks_takeWhile t), ← ht]
  obtain ⟨c, u, hu⟩ : ∃ c u, trimLeft t = c :: u := by
    refine List.exists_cons_of_ne_nil fun hnil => ?_
    rw [hnil] at hwords
    cases hwords
  have hc : Unicode.isBlank c = false := by
    have hhead := List.head?_dropWhile_not Unicode.isBlank t
    rw [← trimLeft, hu] at hhead
    simpa using hhead
  -- Without its blanks in front, the text begins with the word and goes on with a blank, if at all.
  let word := (c :: u).takeWhile (!Unicode.isBlank ·)
  let rest := (c :: u).dropWhile (!Unicode.isBlank ·)
  have hsplit : c :: u = word ++ rest := List.takeWhile_append_dropWhile.symm
  have hrest : ∀ d, rest.head? = some d → Unicode.isBlank d = true := by
    intro d hd
    have hhead := List.head?_dropWhile_not (!Unicode.isBlank ·) (c :: u)
    rw [hd] at hhead
    simpa using hhead
  have hne : word ≠ [] := by simp [word, hc]
  have hword : ∀ d ∈ word, Unicode.isBlank d = false := fun d hd => by
    simpa using List.mem_takeWhile_imp hd
  rw [hu, hsplit, words_append_of_head? hne hword hrest, List.cons.injEq] at hwords
  obtain ⟨rfl, hws⟩ := hwords
  refine ⟨rest, by rw [← hsplit, ← hu, ← ht], hws, fun hsome => ?_⟩
  cases hr : rest with
  | nil =>
      rw [hr] at hws
      exact absurd hws.symm hsome
  | cons d r =>
      rw [List.takeWhile_cons_of_pos (hrest d (by rw [hr]; rfl))]
      exact List.cons_ne_nil d _

/-! ### The two sides of a separator -/

theorem splitFirst?_append {before : Text} (h : c ∉ before) (behind : Text) :
    splitFirst? (· == c) (before ++ c :: behind) = some (before, behind) := by
  have hnot : ∀ d ∈ before, (!(d == c)) = true := fun d hd => by
    rw [beq_eq_false_of_not_mem h d hd]
    rfl
  rw [splitFirst?, List.span_eq_takeWhile_dropWhile, List.takeWhile_append_of_pos hnot,
    List.dropWhile_append_of_pos hnot]
  simp

theorem splitFirst?_eq_none (h : c ∉ t) : splitFirst? (· == c) t = none := by
  have hnot : ∀ d ∈ t, (!(d == c)) = true := fun d hd => by
    rw [beq_eq_false_of_not_mem h d hd]
    rfl
  rw [splitFirst?, List.span_eq_takeWhile_dropWhile, List.dropWhile_eq_nil_iff.2 hnot]

theorem splitLast?_append (before : Text) {behind : Text} (h : c ∉ behind) :
    splitLast? (· == c) (before ++ c :: behind) = some (before, behind) := by
  -- Read backwards, the last separator is the first.
  have hreverse : (before ++ c :: behind).reverse = behind.reverse ++ c :: before.reverse := by
    simp
  rw [splitLast?, hreverse, splitFirst?_append (by simpa using h)]
  simp

theorem splitFirst?_eq_some_iff {before behind : Text} :
    splitFirst? (· == c) t = some (before, behind) ↔ t = before ++ c :: behind ∧ c ∉ before := by
  constructor
  · intro h
    have hc : c ∈ t := by
      by_contra hc
      rw [splitFirst?_eq_none hc] at h
      cases h
    obtain ⟨front, rest, rfl, hfront⟩ := List.eq_append_cons_of_mem hc
    rw [splitFirst?_append hfront] at h
    cases h
    exact ⟨rfl, hfront⟩
  · rintro ⟨rfl, h⟩
    exact splitFirst?_append h behind

theorem splitLast?_eq_some_iff {before behind : Text} :
    splitLast? (· == c) t = some (before, behind) ↔ t = before ++ c :: behind ∧ c ∉ behind := by
  rw [splitLast?, Option.map_eq_some_iff]
  constructor
  · rintro ⟨⟨front, rest⟩, h, hparts⟩
    cases hparts
    obtain ⟨ht, hc⟩ := splitFirst?_eq_some_iff.1 h
    refine ⟨?_, by simpa using hc⟩
    rw [← List.reverse_reverse t, ht]
    simp
  · rintro ⟨rfl, h⟩
    refine ⟨(behind.reverse, before.reverse), ?_, by simp⟩
    rw [List.reverse_append, List.reverse_cons, List.append_assoc, List.singleton_append]
    exact splitFirst?_append (by simpa using h) _

end LiteralPack.Text
