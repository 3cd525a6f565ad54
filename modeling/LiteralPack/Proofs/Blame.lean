import LiteralPack.Proofs.Acceptance

/-!
What the verifier blames. A set is refused by the first check that it fails, and a check that walks
along the set stops at the first offender: the first name that is used again, the first literal that
is misnumbered, does not decode or breaks a cap, the first code point that differs, the first text
with room for more. So a violation says what is wrong, with the real sizes, and that nothing before
it is.
-/

namespace LiteralPack.Verify

variable {limits : Limits} {source : Text} {set : Accessors} {texts : List Text} {v : Violation}

/-! ### Names -/

theorem repeatedName?_eq_some_iff (seen : Std.HashSet String) (names : List String)
    {name : String} : repeatedName? seen names = some name ↔
      ∃ lead rest, names = lead ++ name :: rest ∧ lead.Nodup ∧ (∀ n ∈ lead, n ∉ seen) ∧
        (name ∈ seen ∨ name ∈ lead) := by
  induction names generalizing seen with
  | nil => simp [repeatedName?]
  | cons first names ih =>
      by_cases hseen : first ∈ seen
      · rw [repeatedName?, if_pos (Std.HashSet.contains_iff_mem.2 hseen), Option.some_inj]
        constructor
        · rintro rfl
          refine ⟨[], names, rfl, List.nodup_nil, fun n hn => ?_, .inl hseen⟩
          exact absurd hn List.not_mem_nil
        · rintro ⟨lead, rest, hnames, -, hnew, -⟩
          cases lead with
          | nil => exact (List.cons.inj hnames).1
          | cons n lead =>
              obtain ⟨rfl, -⟩ := List.cons.inj hnames
              exact absurd hseen (hnew _ List.mem_cons_self)
      · rw [repeatedName?, if_neg (mt Std.HashSet.contains_iff_mem.1 hseen), ih]
        simp only [Std.HashSet.mem_insert, beq_iff_eq, not_or]
        constructor
        · rintro ⟨lead, rest, rfl, hnodup, hnew, hname⟩
          refine ⟨first :: lead, rest, rfl, List.nodup_cons.2 ⟨?_, hnodup⟩,
            List.forall_mem_cons.2 ⟨hseen, fun n hn => (hnew n hn).2⟩, ?_⟩
          · exact fun hmem => (hnew first hmem).1 rfl
          · rcases hname with (rfl | hname) | hname
            · exact .inr List.mem_cons_self
            · exact .inl hname
            · exact .inr (List.mem_cons_of_mem _ hname)
        · rintro ⟨lead, rest, hnames, hnodup, hnew, hname⟩
          cases lead with
          | nil =>
              obtain ⟨rfl, -⟩ := List.cons.inj hnames
              rcases hname with hname | hname
              · exact absurd hname hseen
              · cases hname
          | cons n lead =>
              obtain ⟨rfl, rfl⟩ := List.cons.inj hnames
              obtain ⟨hmem, hnodup⟩ := List.nodup_cons.1 hnodup
              refine ⟨lead, rest, rfl, hnodup, fun n hn => ⟨?_, ?_⟩, ?_⟩
              · rintro rfl
                exact hmem hn
              · exact hnew n (List.mem_cons_of_mem _ hn)
              · rcases hname with hname | hname
                · exact .inl (.inr hname)
                · rcases List.mem_cons.1 hname with rfl | hname
                  · exact .inl (.inl rfl)
                  · exact .inr hname

/-! ### Literals -/

/-- A literal that stands at `position` as it should, for a text within the limits. -/
structure Passes (limits : Limits) (position : Nat) (l : Literal) (t : Text) : Prop where
  index_eq : l.index = position
  decode_eq : Literal.decode l.body = .ok t
  admits : limits.admits t = true

/-- Literals that all pass, the first of them at `position`, and the texts they stand for. -/
inductive Sound (limits : Limits) : Nat → List Literal → List Text → Prop
  | nil {position : Nat} : Sound limits position [] []
  | cons {position : Nat} {l : Literal} {t : Text} {literals : List Literal} {texts : List Text}
      (head : Passes limits position l t) (tail : Sound limits (position + 1) literals texts) :
      Sound limits position (l :: literals) (t :: texts)

/-- What is wrong with a literal that stands at `position`. A literal is decoded only under its own
number and measured only if it decodes, and its length counts before its size. -/
inductive Faulty (limits : Limits) (position : Nat) (l : Literal) : Violation → Prop
  | misnumbered (h : l.index ≠ position) : Faulty limits position l (.misnumbered position l.index)
  | undecodable {cause : Literal.DecodeError} (hindex : l.index = position)
      (h : Literal.decode l.body = .error cause) :
      Faulty limits position l (.undecodable position cause)
  | tooLong {t : Text} (hindex : l.index = position) (hdecode : Literal.decode l.body = .ok t)
      (h : limits.maxLength < t.length) :
      Faulty limits position l (.tooLong position t.length limits.maxLength)
  | tooHeavy {t : Text} (hindex : l.index = position) (hdecode : Literal.decode l.body = .ok t)
      (hlength : t.length ≤ limits.maxLength) (h : limits.maxBytes < limits.size t) :
      Faulty limits position l (.tooHeavy position (limits.size t) limits.maxBytes)

section Literals

variable {position : Nat} {l : Literal} {literals lead : List Literal} {t : Text}

theorem decodedFrom_cons_of_passes (h : Passes limits position l t) (decoded : List Text)
    (literals : List Literal) : decodedFrom limits position decoded (l :: literals) =
      decodedFrom limits (position + 1) (t :: decoded) literals := by
  rw [decodedFrom, if_neg (not_not_intro h.index_eq)]
  simp only [h.decode_eq, (bounds_eq_ok_iff_admits position t).2 h.admits]

theorem decodedFrom_cons_of_faulty (h : Faulty limits position l v) (decoded : List Text)
    (literals : List Literal) : decodedFrom limits position decoded (l :: literals) = .error v := by
  cases h with
  | misnumbered h => rw [decodedFrom, if_pos h]
  | undecodable hindex h =>
      rw [decodedFrom, if_neg (not_not_intro hindex)]
      simp only [h]
  | tooLong hindex hdecode h =>
      rw [decodedFrom, if_neg (not_not_intro hindex)]
      simp only [hdecode, bounds, if_pos h]
  | tooHeavy hindex hdecode hlength h =>
      rw [decodedFrom, if_neg (not_not_intro hindex)]
      simp only [hdecode, bounds, if_neg (not_lt.2 hlength), if_pos h]

theorem passes_or_faulty (limits : Limits) (position : Nat) (l : Literal) :
    (∃ t, Passes limits position l t) ∨ ∃ v, Faulty limits position l v := by
  by_cases hindex : l.index = position
  · cases hdecode : Literal.decode l.body with
    | error cause => exact .inr ⟨_, .undecodable hindex hdecode⟩
    | ok t =>
        by_cases hlength : t.length ≤ limits.maxLength
        · by_cases hsize : limits.size t ≤ limits.maxBytes
          · exact .inl ⟨t, hindex, hdecode, (limits.admits_iff t).2 ⟨hsize, hlength⟩⟩
          · exact .inr ⟨_, .tooHeavy hindex hdecode hlength (not_le.1 hsize)⟩
        · exact .inr ⟨_, .tooLong hindex hdecode (not_le.1 hlength)⟩
  · exact .inr ⟨_, .misnumbered hindex⟩

/-- Literals that pass are walked over, whatever follows them. -/
theorem Sound.decodedFrom_append (h : Sound limits position lead texts) (decoded : List Text)
    (literals : List Literal) : decodedFrom limits position decoded (lead ++ literals) =
      decodedFrom limits (position + lead.length) (texts.reverse ++ decoded) literals := by
  induction h generalizing decoded with
  | nil => rfl
  | cons head _ ih =>
      rw [List.cons_append, decodedFrom_cons_of_passes head, ih, List.length_cons,
        List.reverse_cons, List.append_assoc, List.singleton_append, Nat.add_right_comm,
        Nat.add_assoc]

theorem sound_or_faulty (limits : Limits) (position : Nat) (literals : List Literal) :
    (∃ texts, Sound limits position literals texts) ∨
      ∃ lead l rest texts v, literals = lead ++ l :: rest ∧ Sound limits position lead texts ∧
        Faulty limits (position + lead.length) l v := by
  induction literals generalizing position with
  | nil => exact .inl ⟨[], .nil⟩
  | cons l literals ih =>
      rcases passes_or_faulty limits position l with ⟨t, hl⟩ | ⟨v, hl⟩
      · rcases ih (position + 1) with ⟨texts, h⟩ | ⟨lead, l', rest, texts, v, rfl, hlead, h⟩
        · exact .inl ⟨t :: texts, .cons hl h⟩
        · rw [Nat.add_assoc, Nat.add_comm 1] at h
          exact .inr ⟨l :: lead, l', rest, t :: texts, v, rfl, .cons hl hlead, h⟩
      · exact .inr ⟨[], l, literals, [], v, rfl, .nil, hl⟩

theorem Sound.decodedFrom_eq (h : Sound limits 0 literals texts) :
    decodedFrom limits 0 [] literals = .ok texts := by
  have happend := h.decodedFrom_append [] []
  rw [List.append_nil, List.append_nil, decodedFrom, List.reverse_reverse] at happend
  exact happend

theorem decodedFrom_eq_error (hlead : Sound limits 0 lead texts)
    (h : Faulty limits lead.length l v) (rest : List Literal) :
    decodedFrom limits 0 [] (lead ++ l :: rest) = .error v := by
  rw [hlead.decodedFrom_append, Nat.zero_add, decodedFrom_cons_of_faulty h]

theorem sound_of_decodedFrom (h : decodedFrom limits 0 [] literals = .ok texts) :
    Sound limits 0 literals texts := by
  rcases sound_or_faulty limits 0 literals with ⟨others, hsound⟩ |
    ⟨lead, l, rest, others, v, rfl, hlead, hl⟩
  · rw [hsound.decodedFrom_eq] at h
    cases h
    exact hsound
  · rw [Nat.zero_add] at hl
    rw [decodedFrom_eq_error hlead hl] at h
    cases h

theorem faulty_of_decodedFrom (h : decodedFrom limits 0 [] literals = .error v) :
    ∃ lead l rest texts, literals = lead ++ l :: rest ∧ Sound limits 0 lead texts ∧
      Faulty limits lead.length l v := by
  rcases sound_or_faulty limits 0 literals with ⟨others, hsound⟩ |
    ⟨lead, l, rest, others, v', rfl, hlead, hl⟩
  · rw [hsound.decodedFrom_eq] at h
    cases h
  · rw [Nat.zero_add] at hl
    rw [decodedFrom_eq_error hlead hl] at h
    cases h
    exact ⟨lead, l, rest, others, rfl, hlead, hl⟩

end Literals

/-! ### Texts -/

/-- The longest beginning that two texts have in common. -/
def LongestCommonPrefix (p s t : Text) : Prop :=
  p <+: s ∧ p <+: t ∧ ∀ q, q <+: s → q <+: t → q <+: p

theorem LongestCommonPrefix.cons {p s t : Text} (h : LongestCommonPrefix p s t) (c : Char) :
    LongestCommonPrefix (c :: p) (c :: s) (c :: t) := by
  obtain ⟨hs, ht, hlongest⟩ := h
  refine ⟨List.cons_prefix_cons.2 ⟨rfl, hs⟩, List.cons_prefix_cons.2 ⟨rfl, ht⟩, fun q hqs hqt => ?_⟩
  cases q with
  | nil => exact List.nil_prefix
  | cons d q =>
      obtain ⟨rfl, hq⟩ := List.cons_prefix_cons.1 hqs
      exact List.cons_prefix_cons.2 ⟨rfl, hlongest q hq (List.cons_prefix_cons.1 hqt).2⟩

theorem longestCommonPrefix_nil {s t : Text} (h : s.head? ≠ t.head? ∨ s = [] ∨ t = []) :
    LongestCommonPrefix [] s t := by
  refine ⟨List.nil_prefix, List.nil_prefix, fun q hqs hqt => ?_⟩
  cases q with
  | nil => exact List.nil_prefix
  | cons c q =>
      obtain ⟨s, rfl⟩ := hqs
      obtain ⟨t, rfl⟩ := hqt
      simp at h

/-- Texts that differ do so right behind their longest common beginning. -/
theorem exists_differenceFrom_eq (offset : Nat) {s t : Text} (h : s ≠ t) :
    ∃ p, LongestCommonPrefix p s t ∧ differenceFrom offset s t = some (offset + p.length) := by
  induction s generalizing offset t with
  | nil =>
      cases t with
      | nil => exact absurd rfl h
      | cons b t => exact ⟨[], longestCommonPrefix_nil (.inr (.inl rfl)), rfl⟩
  | cons a s ih =>
      cases t with
      | nil => exact ⟨[], longestCommonPrefix_nil (.inr (.inr rfl)), rfl⟩
      | cons b t =>
          by_cases hab : a = b
          · subst hab
            obtain ⟨p, hp, hoffset⟩ := ih (offset + 1) (mt (congrArg (a :: ·)) h)
            refine ⟨a :: p, hp.cons a, ?_⟩
            rw [differenceFrom, if_pos rfl, hoffset, List.length_cons, Nat.add_right_comm,
              Nat.add_assoc]
          · refine ⟨[], longestCommonPrefix_nil (.inl (by simpa using hab)), ?_⟩
            rw [differenceFrom, if_neg hab]
            rfl

theorem LongestCommonPrefix.unique {p q s t : Text} (hp : LongestCommonPrefix p s t)
    (hq : LongestCommonPrefix q s t) : p = q :=
  (hq.2.2 p hp.1 hp.2.1).eq_of_length_le (hp.2.2 q hq.1 hq.2.1).length_le

theorem sameText_eq_error_iff {s t : Text} : sameText s t = .error v ↔
    ∃ p, s ≠ t ∧ LongestCommonPrefix p s t ∧ v = .differs p.length := by
  by_cases hst : s = t
  · rw [(sameText_eq_ok_iff s t).2 hst]
    simp [hst]
  · obtain ⟨p, hp, hoffset⟩ := exists_differenceFrom_eq 0 hst
    have herror : sameText s t = .error (.differs p.length) := by
      rw [sameText, difference?, hoffset, Nat.zero_add]
    rw [herror, Except.error.injEq]
    constructor
    · rintro rfl
      exact ⟨p, hst, hp, rfl⟩
    · rintro ⟨q, -, hq, rfl⟩
      rw [hp.unique hq]

/-- The text at a place could take the first code point of the text behind it. -/
def HasRoomAt (limits : Limits) (texts : List Text) (i : Nat) : Prop :=
  ∃ s c next, texts[i]? = some s ∧ texts[i + 1]? = some (c :: next) ∧
    limits.admits (s ++ [c]) = true

theorem hasRoomAt_zero_iff {s next : Text} {rest : List Text} :
    HasRoomAt limits (s :: next :: rest) 0 ↔ couldGrow limits s next = true := by
  cases next with
  | nil => simp [HasRoomAt, couldGrow]
  | cons c next => simp [HasRoomAt, couldGrow_cons]

theorem maximalFrom_eq_error_iff (index : Nat) (texts : List Text) :
    maximalFrom limits index texts = .error v ↔
      ∃ i, HasRoomAt limits texts i ∧ (∀ j < i, ¬ HasRoomAt limits texts j) ∧
        v = .notMaximal (index + i) := by
  induction texts generalizing index with
  | nil => simp [maximalFrom, HasRoomAt]
  | cons s texts ih =>
      cases texts with
      | nil => simp [maximalFrom, HasRoomAt]
      | cons next rest =>
          have hsucc (i : Nat) : HasRoomAt limits (s :: next :: rest) (i + 1) ↔
              HasRoomAt limits (next :: rest) i := Iff.rfl
          by_cases hgrow : couldGrow limits s next = true
          · rw [maximalFrom, if_pos hgrow, Except.error.injEq]
            have hzero : HasRoomAt limits (s :: next :: rest) 0 := hasRoomAt_zero_iff.2 hgrow
            constructor
            · rintro rfl
              exact ⟨0, hzero, fun j hj => absurd hj (Nat.not_lt_zero j), rfl⟩
            · rintro ⟨i, -, hfirst, rfl⟩
              cases i with
              | zero => rfl
              | succ i => exact absurd hzero (hfirst 0 (Nat.succ_pos i))
          · rw [maximalFrom, if_neg hgrow, ih]
            have hzero : ¬ HasRoomAt limits (s :: next :: rest) 0 := mt hasRoomAt_zero_iff.1 hgrow
            have hindex (i : Nat) : Violation.notMaximal (index + 1 + i) =
                .notMaximal (index + (i + 1)) := by
              rw [Nat.add_right_comm, Nat.add_assoc]
            constructor
            · rintro ⟨i, hi, hfirst, rfl⟩
              refine ⟨i + 1, (hsucc i).2 hi, fun j hj => ?_, hindex i⟩
              cases j with
              | zero => exact hzero
              | succ j => exact mt (hsucc j).1 (hfirst j (Nat.lt_of_succ_lt_succ hj))
            · rintro ⟨i, hi, hfirst, rfl⟩
              cases i with
              | zero => exact absurd hi hzero
              | succ i =>
                  refine ⟨i, (hsucc i).1 hi, fun j hj => ?_, (hindex i).symm⟩
                  exact mt (hsucc j).2 (hfirst (j + 1) (Nat.succ_lt_succ hj))

/-! ### Sets -/

/-- A set that is sound as far as one can see without a look into its literals. -/
structure WellFormed (set : Accessors) : Prop where
  literals_ne_nil : set.literals ≠ []
  isChunked_eq : set.isChunked = decide (1 < set.literals.length)
  nodup_names : (set.name :: set.assembly).Nodup

/-- What is wrong with a set. The cases stand in the order of the checks, and each of them holds
only where the checks before it pass. -/
inductive Refused (limits : Limits) (source : Text) (set : Accessors) : Violation → Prop
  | noFragments (h : set.literals = []) : Refused limits source set .noFragments
  | wrongShape (hne : set.literals ≠ [])
      (h : set.isChunked ≠ decide (1 < set.literals.length)) :
      Refused limits source set (.wrongShape set.literals.length set.isChunked)
  | duplicateName {name : String} {lead rest : List String} (hne : set.literals ≠ [])
      (hshape : set.isChunked = decide (1 < set.literals.length))
      (hnames : set.name :: set.assembly = lead ++ name :: rest) (hlead : lead.Nodup)
      (h : name ∈ lead) : Refused limits source set (.duplicateName name)
  | faulty {lead rest : List Literal} {l : Literal} {texts : List Text} {v : Violation}
      (hset : WellFormed set) (hliterals : set.literals = lead ++ l :: rest)
      (hlead : Sound limits 0 lead texts) (h : Faulty limits lead.length l v) :
      Refused limits source set v
  | differs {p : Text} {texts : List Text} (hset : WellFormed set)
      (hsound : Sound limits 0 set.literals texts) (h : texts.flatten ≠ source)
      (hp : LongestCommonPrefix p texts.flatten source) :
      Refused limits source set (.differs p.length)
  | notMaximal {i : Nat} {texts : List Text} (hset : WellFormed set)
      (hsound : Sound limits 0 set.literals texts) (hsame : texts.flatten = source)
      (h : HasRoomAt limits texts i) (hfirst : ∀ j < i, ¬ HasRoomAt limits texts j) :
      Refused limits source set (.notMaximal i)

theorem repeatedName?_empty_eq_some_iff (names : List String) {name : String} :
    repeatedName? ∅ names = some name ↔
      ∃ lead rest, names = lead ++ name :: rest ∧ lead.Nodup ∧ name ∈ lead := by
  simp [repeatedName?_eq_some_iff]

/-- Behind the checks of a set as a whole stand those of its literals and of their texts. -/
theorem WellFormed.accessors_eq (h : WellFormed set) : accessors limits source set = do
    let texts ← decodedFrom limits 0 [] set.literals
    sameText texts.flatten source
    maximal limits texts
    return reportOf limits source set texts := by
  have hempty : set.literals.isEmpty = false := by simpa using h.literals_ne_nil
  rw [accessors, hempty, h.isChunked_eq, (repeatedName?_empty_eq_none_iff _).2 h.nodup_names]
  simp only [Bool.false_eq_true, ne_eq, not_true_eq_false, if_false, reportOf, h.isChunked_eq]

theorem Refused.accessors_eq (h : Refused limits source set v) :
    accessors limits source set = .error v := by
  cases h with
  | noFragments h =>
      rw [accessors, h]
      rfl
  | wrongShape hne h =>
      have hempty : set.literals.isEmpty = false := by simpa using hne
      rw [accessors, hempty, if_pos h]
      rfl
  | duplicateName hne hshape hnames hlead h =>
      have hempty : set.literals.isEmpty = false := by simpa using hne
      have hrepeated := (repeatedName?_empty_eq_some_iff _).2 ⟨_, _, hnames, hlead, h⟩
      rw [accessors, hempty, if_neg (not_not_intro hshape), hrepeated]
      rfl
  | faulty hset hliterals hlead h =>
      rw [hset.accessors_eq, hliterals, decodedFrom_eq_error hlead h]
      rfl
  | @differs p texts hset hsound h hp =>
      have hdiffers := sameText_eq_error_iff.2 ⟨_, h, hp, rfl⟩
      rw [hset.accessors_eq, hsound.decodedFrom_eq]
      exact bind_eq_error_iff.2 (.inr ⟨texts, rfl, bind_eq_error_iff.2 (.inl hdiffers)⟩)
  | @notMaximal i texts hset hsound hsame h hfirst =>
      have hmaximal := (maximalFrom_eq_error_iff 0 _).2 ⟨_, h, hfirst, rfl⟩
      rw [Nat.zero_add] at hmaximal
      rw [hset.accessors_eq, hsound.decodedFrom_eq]
      refine bind_eq_error_iff.2 (.inr ⟨texts, rfl, ?_⟩)
      refine bind_eq_error_iff.2 (.inr ⟨(), (sameText_eq_ok_iff _ _).2 hsame, ?_⟩)
      exact bind_eq_error_iff.2 (.inl hmaximal)

theorem WellFormed.refused (hset : WellFormed set) (h : accessors limits source set = .error v) :
    Refused limits source set v := by
  simp only [hset.accessors_eq, bind_eq_error_iff] at h
  rcases h with hdecoded | ⟨texts, hdecoded, hsame | ⟨_, hsame, hmaximal | ⟨_, -, hreturn⟩⟩⟩
  · obtain ⟨lead, l, rest, texts, hliterals, hlead, h⟩ := faulty_of_decodedFrom hdecoded
    exact .faulty hset hliterals hlead h
  · obtain ⟨p, h, hp, rfl⟩ := sameText_eq_error_iff.1 hsame
    exact .differs hset (sound_of_decodedFrom hdecoded) h hp
  · obtain ⟨i, h, hfirst, rfl⟩ := (maximalFrom_eq_error_iff 0 texts).1 hmaximal
    rw [Nat.zero_add]
    exact .notMaximal hset (sound_of_decodedFrom hdecoded) ((sameText_eq_ok_iff _ _).1 hsame) h
      hfirst
  · cases hreturn

theorem wellFormed_or_refused (limits : Limits) (source : Text) (set : Accessors) :
    WellFormed set ∨ ∃ v, Refused limits source set v := by
  by_cases hne : set.literals = []
  · exact .inr ⟨_, .noFragments hne⟩
  · by_cases hshape : set.isChunked = decide (1 < set.literals.length)
    · cases hrepeated : repeatedName? ∅ (set.name :: set.assembly) with
      | some name =>
          obtain ⟨lead, rest, hnames, hlead, h⟩ := (repeatedName?_empty_eq_some_iff _).1 hrepeated
          exact .inr ⟨_, .duplicateName hne hshape hnames hlead h⟩
      | none => exact .inl ⟨hne, hshape, (repeatedName?_empty_eq_none_iff _).1 hrepeated⟩
    · exact .inr ⟨_, .wrongShape hne hshape⟩

theorem accessors_eq_error_iff :
    accessors limits source set = .error v ↔ Refused limits source set v := by
  refine ⟨fun h => ?_, Refused.accessors_eq⟩
  obtain hset | ⟨v', hv'⟩ := wellFormed_or_refused limits source set
  · exact hset.refused h
  · cases h.symm.trans hv'.accessors_eq
    exact hv'

theorem Refused.two_le_count {name : String} (h : Refused limits source set (.duplicateName name)) :
    2 ≤ (set.name :: set.assembly).count name := by
  cases h with
  | @duplicateName _ lead rest hne hshape hnames hlead h =>
      have hpos := List.count_pos_iff.2 h
      rw [hnames, List.count_append, List.count_cons_self]
      omega
  | faulty _ _ _ h => cases h

/-- The verifier refuses a set for what is wrong with it, and for the first thing that is. It finds
no literals exactly where there are none, and a name that it finds again occurs at least twice. -/
theorem accessors_blames_first (limits : Limits) (source : Text) (set : Accessors) :
    (∀ v, accessors limits source set = .error v ↔ Refused limits source set v) ∧
      (accessors limits source set = .error .noFragments ↔ set.literals = []) ∧
      ∀ name, accessors limits source set = .error (.duplicateName name) →
        2 ≤ (set.name :: set.assembly).count name := by
  refine ⟨fun v => accessors_eq_error_iff, ?_, fun name h => ?_⟩
  · rw [accessors_eq_error_iff]
    constructor
    · intro h
      cases h with
      | noFragments h => exact h
      | faulty _ _ _ h => cases h
    · exact .noFragments
  · exact (accessors_eq_error_iff.1 h).two_le_count

/-- Two parts under one name, the second of which does not decode either. -/
def collision : Accessors :=
  .chunked "body" [⟨"body0", ⟨0, ['a'], 1, 1⟩⟩, ⟨"body0", ⟨1, ['\\'], 1, 1⟩⟩]

theorem accessors_blames_first_collision :
    accessors Limits.classFile ['a'] collision = .error (.duplicateName "body0") ∧
      2 ≤ ("body" :: ["body0", "body0"]).count "body0" := by
  obtain ⟨hrefused, -, hcount⟩ := accessors_blames_first Limits.classFile ['a'] collision
  have hnames : collision.name :: collision.assembly = ["body", "body0"] ++ "body0" :: [] := rfl
  have herror := (hrefused _).2
    (.duplicateName (by decide) (by decide) hnames (by decide) (by decide))
  exact ⟨herror, hcount "body0" herror⟩

end LiteralPack.Verify
