import Mathlib.Data.List.Infix
import LiteralPack.Proofs.Acceptance
import LiteralPack.Store.Disk

/-!
Ways through a disk. A path is walked segment by segment, and the places that its segments but the
last lead to lie on its way. What leads to a parent leads on to the path itself, so the way to a
parent, its end included, is part of the way to the path.
-/

namespace LiteralPack

namespace Path

variable {p q : Path}

theorem dropEnd_nil : dropEnd [] = [] := rfl

/-- Read backwards, an end is dropped up to a slash, unless the root is what is left. The slash in
front of the text stands for the end of the path. -/
theorem dropEnd_cases (t : Text) :
    (dropEnd t = ['/'] ∧ ['/'] <:+ t) ∨ ∃ dropped, '/' :: t = dropped ++ '/' :: dropEnd t := by
  fun_induction dropEnd t with
  | case1 => exact .inl ⟨rfl, List.suffix_refl _⟩
  | case2 => exact .inl ⟨rfl, List.suffix_cons '.' ['/']⟩
  | case3 rest _ ih =>
      rcases ih with ⟨hroot, hsuffix⟩ | ⟨dropped, hdropped⟩
      · exact .inl ⟨hroot, hsuffix.trans (List.suffix_cons '/' rest)⟩
      · exact .inr ⟨'/' :: dropped, congrArg ('/' :: ·) hdropped⟩
  | case4 rest _ ih =>
      rcases ih with ⟨hroot, hsuffix⟩ | ⟨dropped, hdropped⟩
      · exact .inl ⟨hroot, hsuffix.trans (List.suffix_append ['.', '/'] rest)⟩
      · exact .inr ⟨'/' :: '.' :: dropped, congrArg ('/' :: '.' :: ·) hdropped⟩
  | case5 => exact .inr ⟨[], rfl⟩

theorem dropEnd_suffix (t : Text) : dropEnd t <:+ t := by
  rcases dropEnd_cases t with ⟨hroot, hsuffix⟩ | ⟨dropped, hdropped⟩
  · rwa [hroot]
  · cases dropped with
    | nil =>
        have htail := List.tail_eq_of_cons_eq hdropped
        exact htail ▸ List.suffix_refl t
    | cons c dropped =>
        have htail := List.tail_eq_of_cons_eq hdropped
        exact ⟨dropped ++ ['/'], by rw [List.append_assoc]; exact htail.symm⟩

theorem dropEnd_slash (t : Text) :
    (dropEnd ('/' :: t) = ['/'] ∧ ['/'] <:+ '/' :: t) ∨
      ∃ dropped, '/' :: t = dropped ++ '/' :: dropEnd ('/' :: t) := by
  cases t with
  | nil => exact .inl ⟨rfl, List.suffix_refl _⟩
  | cons c t =>
      have hdrop : dropEnd ('/' :: c :: t) = dropEnd (c :: t) := by
        rw [dropEnd]
        simp
      rw [hdrop]
      rcases dropEnd_cases (c :: t) with ⟨hroot, hsuffix⟩ | hdropped
      · exact .inl ⟨hroot, hsuffix.trans (List.suffix_cons '/' (c :: t))⟩
      · exact .inr hdropped

theorem isAbsolute_iff : p.isAbsolute = true ↔ ['/'] <+: p.text.toList := by
  rw [isAbsolute, beq_iff_eq]
  cases p.text.toList <;> simp [eq_comm]

/-- A path goes on behind a slash where its parent ends, unless the parent is no more than the
place that the path starts from. -/
theorem parent?_cases (h : p.parent? = some q) :
    q.text = "" ∨ (q.text = "/" ∧ p.isAbsolute = true) ∨
      ∃ behind, p.text.toList = q.text.toList ++ '/' :: behind := by
  unfold parent? at h
  split at h
  · cases h
  · cases h
  · obtain rfl := Option.some_inj.1 h
    have hsuffix := (List.dropWhile_suffix (· ≠ '/')).trans (dropEnd_suffix p.text.toList.reverse)
    cases hrest : (dropEnd p.text.toList.reverse).dropWhile (· ≠ '/') with
    | nil =>
        left
        rw [dropEnd_nil]
        rfl
    | cons c rest =>
        have hc : c = '/' := by
          have hhead := List.head?_dropWhile_not (· ≠ '/') (dropEnd p.text.toList.reverse)
          rw [hrest] at hhead
          simpa using hhead
        subst hc
        rw [hrest] at hsuffix
        right
        rcases dropEnd_slash rest with ⟨hroot, habsolute⟩ | ⟨dropped, hdropped⟩
        · refine .inl ⟨by rw [hroot]; rfl, isAbsolute_iff.2 ?_⟩
          exact List.reverse_suffix.1 (habsolute.trans hsuffix)
        · obtain ⟨front, hfront⟩ := hsuffix
          refine .inr ⟨dropped.reverse ++ front.reverse, ?_⟩
          rw [hdropped] at hfront
          rw [← List.reverse_inj, ← hfront]
          simp

end Path

namespace Disk

/-! ### Walking -/

/-- Where a segment leads from a location, if nothing is in the way. -/
def move (l : Location) (s : Text) : Location :=
  if stays s then l else if s == up then above l else l ++ [s]

def walk (l : Location) (segments : List Text) : Location := segments.foldl move l

/-- The places that are passed when segments are walked, the first and the last one included. -/
def Along (l : Location) (segments : List Text) (place : Location) : Prop :=
  ∃ front, front <+: segments ∧ walk l front = place

/-- The location that a path starts from. -/
def origin (p : Path) : Location := if p.isAbsolute then root else []

/-- A path leads through the places of its ancestors, from where it starts up to its parent. They
are taken component by component, `..` segments included, so `new` is an ancestor of
`new/../dst/Embedded.java`. -/
def LeadsThrough (p : Path) (place : Location) : Prop :=
  Along (origin p) p.segments.dropLast place

variable {d : Disk} {l stop place : Location} {segments more : List Text} {p q : Path} {s : Text}

theorem Along.cons (h : Along (move l s) segments place) : Along l (s :: segments) place := by
  obtain ⟨front, hfront, hwalk⟩ := h
  exact ⟨s :: front, (List.prefix_cons_inj s).2 hfront, hwalk⟩

theorem Along.mono (h : Along l segments place) (hle : segments <+: more) : Along l more place := by
  obtain ⟨front, hfront, hwalk⟩ := h
  exact ⟨front, hfront.trans hle, hwalk⟩

theorem walk_eq_self (h : ∀ s ∈ segments, stays s = true) : walk l segments = l := by
  induction segments with
  | nil => rfl
  | cons s segments ih =>
      rw [List.forall_mem_cons] at h
      rw [walk, List.foldl_cons, move, if_pos h.1]
      exact ih h.2

/-- Following segments is walking them. -/
theorem walk_of_follow (h : d.follow l segments = .ok stop) : walk l segments = stop := by
  induction segments generalizing l with
  | nil => exact Except.ok.inj h
  | cons s segments ih =>
      simp only [follow, bind_eq_ok_iff] at h
      obtain ⟨⟨⟩, -, h⟩ := h
      rw [walk, List.foldl_cons, move]
      split_ifs at h ⊢
      · exact ih h
      · exact ih h
      · exact ih h

theorem origin_of_start (h : start p = .ok l) : origin p = l := by
  unfold start at h
  split_ifs at h with _ _ _ habsolute
  · rw [origin, if_pos habsolute]
    exact Except.ok.inj h
  · rw [origin, if_neg habsolute]
    exact Except.ok.inj h

/-- What is on the way to a parent, its end included, is on the way to the path. -/
theorem Along.of_parent (hparent : p.parent? = some q) (h : Along l q.segments place) :
    Along l p.segments.dropLast place := by
  have hstill (hstays : ∀ s ∈ q.segments, stays s = true) :
      Along l p.segments.dropLast place := by
    obtain ⟨front, hfront, rfl⟩ := h
    rw [walk_eq_self fun s hs => hstays s (hfront.subset hs)]
    exact ⟨[], List.nil_prefix, rfl⟩
  rcases Path.parent?_cases hparent with hempty | ⟨hroot, -⟩ | ⟨behind, hbehind⟩
  · apply hstill
    rw [Path.segments, hempty]
    decide
  · apply hstill
    rw [Path.segments, hroot]
    decide
  · have hsegments : p.segments = q.segments ++ Text.segments (· == '/') behind := by
      rw [Path.segments, hbehind]
      exact Text.segments_append_cons (· == '/') (beq_self_eq_true '/') _ behind
    rw [hsegments, List.dropLast_append_of_ne_nil (Text.segments_ne_nil _ behind)]
    exact h.mono (List.prefix_append _ _)

theorem leadsThrough_of_parent (hparent : p.parent? = some q) (hne : q.text ≠ "")
    (h : Along (origin q) q.segments place) : LeadsThrough p place := by
  have habsolute : q.isAbsolute = p.isAbsolute := by
    rcases Path.parent?_cases hparent with hempty | ⟨hroot, hp⟩ | ⟨behind, hbehind⟩
    · exact absurd hempty hne
    · rw [hp, Path.isAbsolute, hroot]
      decide
    · rw [Path.isAbsolute, Path.isAbsolute, hbehind, List.head?_append_of_ne_nil]
      exact fun hnil => hne (String.toList_eq_nil_iff.1 hnil)
  have horigin : origin q = origin p := by rw [origin, origin, habsolute]
  rw [LeadsThrough, ← horigin]
  exact h.of_parent hparent

end Disk

end LiteralPack
