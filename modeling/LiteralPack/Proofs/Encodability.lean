import LiteralPack.Proofs.Encoded

/-!
Which texts can be encoded, and which of them in one piece. A cut fails at a code point wider than
the size cap and reports the first one, wherever the fragments in front of it end: what has been
cut off fits, so the cut comes to that code point and cannot get past it. A single accessor is what
becomes of the texts that the limits admit.
-/

namespace LiteralPack

/-- A report of the first code point that no fragment can hold. -/
structure TooWide.IsFirst (limits : Limits) (t : Text) (wide : TooWide) : Prop where
  getElem?_offset : t[wide.offset]? = some wide.codePoint
  width_eq : wide.width = limits.width wide.codePoint
  maxBytes_eq : wide.maxBytes = limits.maxBytes
  exceeds : wide.maxBytes < wide.width
  fits_before : ∀ c ∈ t.take wide.offset, limits.width c ≤ limits.maxBytes

namespace TooWide.IsFirst

variable {limits other : Limits} {t lead : Text} {wide wide' : TooWide}

theorem lt_width (h : wide.IsFirst limits t) : limits.maxBytes < limits.width wide.codePoint := by
  rw [← h.width_eq, ← h.maxBytes_eq]
  exact h.exceeds

theorem mem (h : wide.IsFirst limits t) : wide.codePoint ∈ t :=
  List.mem_of_getElem? h.getElem?_offset

/-- Nothing in front of the first one is too wide, so no report is ahead of another. -/
theorem offset_le (h : wide.IsFirst limits t) (h' : wide'.IsFirst limits t) :
    wide.offset ≤ wide'.offset := by
  by_contra hlt
  have hmem : wide'.codePoint ∈ t.take wide.offset := by
    apply List.mem_of_getElem? (i := wide'.offset)
    rw [List.getElem?_take_of_lt (not_le.1 hlt)]
    exact h'.getElem?_offset
  exact absurd (h.fits_before _ hmem) (not_le.2 h'.lt_width)

theorem unique (h : wide.IsFirst limits t) (h' : wide'.IsFirst limits t) : wide = wide' := by
  have hoffset : wide.offset = wide'.offset := Nat.le_antisymm (h.offset_le h') (h'.offset_le h)
  have hcodePoint : wide.codePoint = wide'.codePoint := by
    rw [← Option.some_inj, ← h.getElem?_offset, ← h'.getElem?_offset, hoffset]
  have hwidth : wide.width = wide'.width := by rw [h.width_eq, h'.width_eq, hcodePoint]
  have hmaxBytes : wide.maxBytes = wide'.maxBytes := h.maxBytes_eq.trans h'.maxBytes_eq.symm
  cases wide
  cases wide'
  rw [TooWide.mk.injEq]
  exact ⟨hoffset, hcodePoint, hwidth, hmaxBytes⟩

theorem of_append_cons {c : Char} (hlead : ∀ d ∈ lead, limits.width d ≤ limits.maxBytes)
    (hc : limits.maxBytes < limits.width c) (rest : Text) :
    TooWide.IsFirst limits (lead ++ c :: rest) ⟨lead.length, c, limits.width c, limits.maxBytes⟩ :=
  ⟨by simp, rfl, rfl, hc, by simpa using hlead⟩

/-- Of the limits, only the size cap and the measure count. -/
theorem of_limits_eq (hmaxBytes : other.maxBytes = limits.maxBytes)
    (hmeasure : other.measure = limits.measure) (h : wide.IsFirst limits t) :
    wide.IsFirst other t := by
  have hwidth : other.width = limits.width := by
    funext c
    rw [Limits.width, Limits.width, hmeasure]
  constructor
  case getElem?_offset => exact h.getElem?_offset
  case width_eq => rw [hwidth, h.width_eq]
  case maxBytes_eq => rw [hmaxBytes, h.maxBytes_eq]
  case exceeds => exact h.exceeds
  case fits_before =>
    rw [hwidth, hmaxBytes]
    exact h.fits_before

end TooWide.IsFirst

/-! ### Cuts that fail -/

namespace Limits

variable {limits : Limits} {t lead rest : Text} {wide : TooWide}

/-- Behind a beginning that fits, a cut reports the first code point that is too wide, however the
beginning was cut. -/
theorem pieces_eq_error_iff (hlead : ∀ c ∈ lead, limits.width c ≤ limits.maxBytes)
    (cut : List Text) :
    limits.pieces lead.length cut rest = .error wide ↔ wide.IsFirst limits (lead ++ rest) := by
  generalize hoffset : lead.length = offset
  fun_induction limits.pieces offset cut rest generalizing lead with
  | case1 =>
      constructor
      · intro h
        cases h
      · intro h
        rw [List.append_nil] at h
        exact absurd (hlead _ h.mem) (not_le.2 h.lt_width)
  | case2 offset cut c rest hnil =>
      -- A piece that holds nothing has given back a code point that does not fit on its own.
      have hc : limits.maxBytes < limits.width c :=
        not_le.1 fun hc => longest_ne_nil hc rest hnil
      have hfirst := TooWide.IsFirst.of_append_cons hlead hc rest
      subst hoffset
      rw [Except.error.injEq]
      constructor
      · rintro rfl
        exact hfirst
      · exact hfirst.unique
  | case3 offset cut c rest d piece hp ih =>
      obtain ⟨behind, hb⟩ := hp ▸ limits.longest_prefix (c :: rest)
      have htail : piece ++ behind = rest := (List.cons.inj hb).2
      have hrest : rest.drop piece.length = behind := by rw [← htail, List.drop_left]
      have hfits : ∀ x ∈ lead ++ d :: piece, limits.width x ≤ limits.maxBytes := by
        intro x hx
        rcases List.mem_append.1 hx with hx | hx
        · exact hlead x hx
        · exact width_le_of_mem (limits.admits_longest (c :: rest)) (hp ▸ hx)
      have hlen : (lead ++ d :: piece).length = offset + (piece.length + 1) := by
        rw [List.length_append, List.length_cons, hoffset]
      rw [ih hfits hlen, hrest, List.append_assoc, hb]

theorem cut_eq_error_iff : limits.cut t = .error wide ↔ wide.IsFirst limits t := by
  cases t with
  | nil =>
      constructor
      · intro h
        cases h
      · intro h
        exact absurd h.mem List.not_mem_nil
  | cons c rest =>
      have hpieces :
          limits.pieces 0 [] (c :: rest) = .error wide ↔ wide.IsFirst limits (c :: rest) :=
        pieces_eq_error_iff (List.forall_mem_nil _) []
      rw [← hpieces, cut, List.isEmpty_cons, if_neg Bool.false_ne_true]
      cases limits.pieces 0 [] (c :: rest) <;> simp [Except.map]

theorem exists_cut_eq_error_iff :
    (∃ wide, limits.cut t = .error wide) ↔ ∃ c ∈ t, limits.maxBytes < limits.width c := by
  constructor
  · rintro ⟨wide, h⟩
    have hfirst := cut_eq_error_iff.1 h
    exact ⟨wide.codePoint, hfirst.mem, hfirst.lt_width⟩
  · rintro ⟨c, hc, hwidth⟩
    cases h : limits.cut t with
    | error wide => exact ⟨wide, rfl⟩
    | ok fs =>
        obtain ⟨texts, hcut, -⟩ := cut_eq_ok_iff.1 h
        obtain ⟨p, hp, hcp⟩ := List.mem_flatten.1 (hcut.flatten ▸ hc)
        exact absurd (width_le_of_mem (hcut.admits p hp) hcp) (not_le.2 hwidth)

end Limits

namespace Encoder

variable {e : Encoder} {accessor : String} {t : Text} {wide : TooWide}

theorem encode_eq_error_iff : e.encode accessor t = .error wide ↔ e.limits.cut t = .error wide := by
  rw [encode]
  cases e.limits.cut t <;> simp [Except.map]

/-- A text is refused for its first code point that is too wide. Neither the length cap nor the way
in which the text in front of it was cut has a part in that. -/
theorem encode_refuses_first (e : Encoder) (accessor : String) (t : Text) :
    ((∃ wide, e.limits.cut t = .error wide) ↔ ∃ c ∈ t, e.limits.maxBytes < e.limits.width c) ∧
      (∀ wide, e.limits.cut t = .error wide ↔ wide.IsFirst e.limits t) ∧
      (∀ wide, e.encode accessor t = .error wide ↔ e.limits.cut t = .error wide) ∧
      (∀ other : Limits, other.maxBytes = e.limits.maxBytes → other.measure = e.limits.measure →
        ∀ wide, other.cut t = .error wide ↔ e.limits.cut t = .error wide) ∧
      ∀ lead rest, lead ++ rest = t → (∀ c ∈ lead, e.limits.width c ≤ e.limits.maxBytes) →
        ∀ cut wide,
          e.limits.pieces lead.length cut rest = .error wide ↔ e.limits.cut t = .error wide := by
  refine ⟨Limits.exists_cut_eq_error_iff, fun wide => Limits.cut_eq_error_iff,
    fun wide => encode_eq_error_iff, ?_, ?_⟩
  · intro other hmaxBytes hmeasure wide
    rw [Limits.cut_eq_error_iff, Limits.cut_eq_error_iff]
    exact ⟨.of_limits_eq hmaxBytes.symm hmeasure.symm, .of_limits_eq hmaxBytes hmeasure⟩
  · rintro lead rest rfl hlead cut wide
    rw [Limits.pieces_eq_error_iff hlead, Limits.cut_eq_error_iff]

/-- Three code points of up to three class-file bytes. -/
def narrow : Encoder where
  target := .java
  limits :=
    { maxLength := 3
      maxBytes := 3
      measure := .modifiedUtf8
      maxLength_pos := Nat.succ_pos 2
      maxBytes_pos := Nat.succ_pos 2 }

/-- The same size cap under another length cap. -/
def narrower : Limits :=
  { narrow.limits with
    maxLength := 1
    maxLength_pos := Nat.one_pos }

/-- The first code point of six bytes would be the third one of a fragment. -/
def twoFaces : Text := ['a', 'é', 'b', 'c', '😀', 'd', '😀']

theorem encode_refuses_first_twoFaces :
    (⟨4, '😀', 6, 3⟩ : TooWide).IsFirst narrow.limits twoFaces ∧
      narrow.encode "body" twoFaces = .error ⟨4, '😀', 6, 3⟩ ∧
      narrower.cut twoFaces = .error ⟨4, '😀', 6, 3⟩ ∧
      narrow.limits.pieces 3 [['a', 'é'], ['b']] ['c', '😀', 'd', '😀'] =
        .error ⟨4, '😀', 6, 3⟩ := by
  have hfits : ∀ c ∈ ['a', 'é', 'b', 'c'], narrow.limits.width c ≤ narrow.limits.maxBytes := by
    simp only [List.forall_mem_cons]
    exact ⟨by decide, by decide, by decide, by decide, nofun⟩
  have hlead : ∀ c ∈ ['a', 'é', 'b'], narrow.limits.width c ≤ narrow.limits.maxBytes :=
    fun c hc => hfits c (List.mem_append_left ['c'] hc)
  have hfirst : (⟨4, '😀', 6, 3⟩ : TooWide).IsFirst narrow.limits twoFaces :=
    .of_append_cons hfits (by decide) ['d', '😀']
  obtain ⟨-, hcut, hencode, hother, hresumed⟩ := narrow.encode_refuses_first "body" twoFaces
  have herror := (hcut _).2 hfirst
  exact ⟨hfirst, (hencode _).2 herror, (hother narrower rfl rfl _).2 herror,
    (hresumed ['a', 'é', 'b'] _ rfl hlead [['a', 'é'], ['b']] _).2 herror⟩

/-! ### One accessor or several -/

/-- A text that the limits admit becomes one literal, written as a whole. -/
theorem encode_of_admits (h : e.limits.admits t = true) :
    e.encode accessor t =
      .ok (.direct accessor ⟨0, Literal.escape e.target t, t.length, t.utf8Size⟩) := by
  have hfit : ∀ p ∈ [t], e.limits.admits p = true := by simpa using h
  obtain ⟨texts, hcut, -⟩ :=
    Limits.exists_isCut_length_le (List.cons_ne_nil t []) List.flatten_singleton hfit
  obtain ⟨p, rfl⟩ := List.length_eq_one_iff.1 (hcut.length_eq_one_iff.2 h)
  obtain rfl : p = t := by simpa using hcut.flatten
  exact encode_eq_ok_iff.2 ⟨[p], hcut, rfl⟩

theorem admits_of_encode_direct {name : String} {l : Literal}
    (h : e.encode accessor t = .ok (.direct name l)) : e.limits.admits t = true := by
  obtain ⟨texts, hcut, hset⟩ := encode_eq_ok_iff.1 h
  have hchunked := Accessors.isChunked_assemble e.partPrefix accessor
    ((Fragment.layOut texts).map (Fragment.literal e.target))
  rw [← hset, List.length_map, Fragment.layOut_length] at hchunked
  exact hcut.length_eq_one_iff.1 (by simpa [Accessors.isChunked] using hchunked)

/-- The parts of a set stand for fragments that hold something. -/
structure Splits (e : Encoder) (t : Text) (parts : List Part) (fs : List Fragment) : Prop where
  cut_eq : e.limits.cut t = .ok fs
  literals_eq : parts.map Part.literal = fs.map (Fragment.literal e.target)
  two_le : 2 ≤ parts.length
  text_ne_nil : ∀ f ∈ fs, f.text ≠ []

theorem splits_of_encode {set : Accessors} (h : e.encode accessor t = .ok set)
    (hadmits : e.limits.admits t = false) :
    ∃ parts fs, set = .chunked accessor parts ∧ e.Splits t parts fs := by
  obtain ⟨texts, hcut, hset⟩ := encode_eq_ok_iff.1 h
  cases set with
  | direct name l => exact absurd (admits_of_encode_direct h) (Bool.eq_false_iff.1 hadmits)
  | chunked name parts =>
      have hname := congrArg Accessors.name hset
      rw [Accessors.name_assemble] at hname
      obtain rfl : name = accessor := hname
      have hliterals := congrArg Accessors.literals hset
      rw [Accessors.literals_assemble] at hliterals
      refine ⟨parts, _, rfl, Limits.cut_eq_ok_iff.2 ⟨texts, hcut, rfl⟩, hliterals, ?_, ?_⟩
      · have hlen := congrArg List.length hliterals
        rw [Accessors.literals, List.length_map, List.length_map, Fragment.layOut_length] at hlen
        have hpos := List.length_pos_of_ne_nil hcut.ne_nil
        have hone : texts.length ≠ 1 := fun hone =>
          Bool.eq_false_iff.1 hadmits (hcut.length_eq_one_iff.1 hone)
        omega
      · intro f hf hnil
        have hmem : f.text ∈ texts := by
          rw [← Fragment.layOut_map_text texts]
          exact List.mem_map_of_mem hf
        obtain rfl := hcut.eq_nil_of_mem (hnil ▸ hmem)
        exact Bool.eq_false_iff.1 hadmits e.limits.admits_nil

/-- A text becomes a single accessor exactly if the limits admit it, and several parts otherwise,
unless it cannot be encoded at all. -/
theorem encode_direct_iff (e : Encoder) (accessor : String) (t : Text) :
    ((∃ name l, e.encode accessor t = .ok (.direct name l)) ↔ e.limits.admits t = true) ∧
      (e.limits.admits t = false → ∀ set, e.encode accessor t = .ok set →
        ∃ parts fs, set = .chunked accessor parts ∧ e.Splits t parts fs) ∧
      ∀ wide, e.encode accessor t = .error wide → e.limits.admits t = false := by
  refine ⟨⟨?_, ?_⟩, ?_, ?_⟩
  · rintro ⟨name, l, h⟩
    exact admits_of_encode_direct h
  · intro hadmits
    exact ⟨_, _, encode_of_admits hadmits⟩
  · intro hadmits set h
    exact splits_of_encode h hadmits
  · intro wide h
    rw [← Bool.not_eq_true]
    intro hadmits
    rw [encode_of_admits hadmits] at h
    cases h

/-- One byte more than fits one literal of `narrow`. -/
def overflowing : Text := ['a', 'é', 'c']

def overflowingSet : Accessors :=
  .chunked "body" [⟨"__body0", ⟨0, "a\\u00E9".toList, 2, 3⟩⟩, ⟨"__body1", ⟨1, ['c'], 1, 1⟩⟩]

theorem encode_direct_iff_overflowing :
    narrow.limits.admits ['a', 'é'] = true ∧
      (∃ name l, narrow.encode "body" ['a', 'é'] = .ok (.direct name l)) ∧
      narrow.encode "body" overflowing = .ok overflowingSet ∧
      narrow.limits.admits overflowing = false ∧
      (∃ parts fs, overflowingSet = .chunked "body" parts ∧ narrow.Splits overflowing parts fs) ∧
      narrow.encode "body" twoFaces = .error ⟨4, '😀', 6, 3⟩ ∧
      narrow.limits.admits twoFaces = false := by
  have hfits : narrow.limits.admits ['a', 'é'] = true := by decide
  have hencode : narrow.encode "body" overflowing = .ok overflowingSet := by decide +kernel
  have hrefused : narrow.limits.admits overflowing = false := by decide
  have herror : narrow.encode "body" twoFaces = .error ⟨4, '😀', 6, 3⟩ := by decide +kernel
  exact ⟨hfits, (narrow.encode_direct_iff "body" _).1.2 hfits, hencode, hrefused,
    (narrow.encode_direct_iff "body" _).2.1 hrefused _ hencode, herror,
    (narrow.encode_direct_iff "body" _).2.2 _ herror⟩

end Encoder

end LiteralPack
