import LiteralPack.Proofs.Acceptance
import LiteralPack.Proofs.SourceReading
import LiteralPack.Settings

/-!
Names that pass the checks are bare. The characters of identifiers and of qualified names are told
apart from white space, quotes and parentheses by their ranges, and whatever becomes a name in a
generated file has been checked to be one of the two.
-/

namespace LiteralPack

open Source

namespace Unicode

variable {c : Char}

/-- Ranges without a common code point. -/
def Disjoint (these those : List (Nat × Nat)) : Prop :=
  ∀ r ∈ these, ∀ s ∈ those, r.2 < s.1 ∨ s.2 < r.1

instance (these those : List (Nat × Nat)) : Decidable (Disjoint these those) :=
  inferInstanceAs (Decidable (∀ r ∈ these, ∀ s ∈ those, r.2 < s.1 ∨ s.2 < r.1))

theorem Disjoint.inRanges_eq_false {these those : List (Nat × Nat)} (h : Disjoint these those)
    (hc : inRanges these c = true) : inRanges those c = false := by
  obtain ⟨r, hr, hlow, hhigh⟩ := (inRanges_iff these c).1 hc
  rw [Bool.eq_false_iff, ne_eq, inRanges_iff]
  rintro ⟨s, hs, hlow', hhigh'⟩
  have hapart := h r hr s hs
  omega

/-- What separates names from each other and from what surrounds them. -/
def delimiters : List (Nat × Nat) := (0x22, 0x22) :: (0x28, 0x28) :: blank

theorem alphabetic_delimiters : Disjoint alphabetic delimiters := by decide +kernel

theorem numeric_delimiters : Disjoint numeric delimiters := by decide +kernel

end Unicode

namespace Identifier

variable {c : Char} {t : Text}

def InName (c : Char) : Prop := isPart c = true ∨ c = '.'

theorem not_delimiter_of_isPart (h : isPart c = true) :
    Unicode.inRanges Unicode.delimiters c = false := by
  simp only [isPart, Bool.or_eq_true, beq_iff_eq] at h
  -- The underscore is the one character of identifiers that stands in neither table.
  obtain (h | h) | rfl := h
  · exact Unicode.alphabetic_delimiters.inRanges_eq_false h
  · exact Unicode.numeric_delimiters.inRanges_eq_false h
  · decide

theorem not_delimiter_of_inName (h : InName c) : Unicode.inRanges Unicode.delimiters c = false := by
  obtain h | rfl := h
  · exact not_delimiter_of_isPart h
  · decide

theorem bare_of_inName (hne : t ≠ []) (h : ∀ c ∈ t, InName c) : Bare t := by
  have hdelimiter : ∀ c ∈ t, Unicode.inRanges Unicode.delimiters c = false := fun c hc =>
    not_delimiter_of_inName (h c hc)
  simp only [Unicode.delimiters, Unicode.inRanges, List.any_cons,
    Bool.or_eq_false_iff] at hdelimiter
  refine ⟨hne, fun c hc => (hdelimiter c hc).2.2, fun hc => ?_, fun hc => ?_⟩
  · exact absurd (hdelimiter _ hc).1 (by decide)
  · exact absurd (hdelimiter _ hc).2.1 (by decide)

theorem isIdentifier_iff : isIdentifier t = true ↔
    (∃ c, t.head? = some c ∧ isStart c = true) ∧ (∀ c ∈ t, isPart c = true) ∧
      isReserved t = false := by
  cases t with
  | nil => simp [isIdentifier]
  | cons first rest =>
      simp only [isIdentifier, Bool.and_eq_true, List.all_eq_true, Bool.not_eq_true']
      constructor
      · rintro ⟨⟨hstart, hrest⟩, hfree⟩
        have hfirst := isPart_of_isStart first hstart
        exact ⟨⟨first, rfl, hstart⟩, List.forall_mem_cons.2 ⟨hfirst, hrest⟩, hfree⟩
      · rintro ⟨⟨c, hc, hstart⟩, hparts, hfree⟩
        cases hc
        exact ⟨⟨hstart, (List.forall_mem_cons.1 hparts).2⟩, hfree⟩

theorem forall_isPart (h : isIdentifier t = true) : ∀ c ∈ t, isPart c = true :=
  (isIdentifier_iff.1 h).2.1

theorem ne_nil_of_isIdentifier (h : isIdentifier t = true) : t ≠ [] := by
  rintro rfl
  cases h

theorem bare_of_isIdentifier (h : isIdentifier t = true) : Bare t :=
  bare_of_inName (ne_nil_of_isIdentifier h) fun c hc => .inl (forall_isPart h c hc)

theorem bare_of_isQualified (h : isQualified t = true) : Bare t := by
  rw [isQualified, List.all_eq_true] at h
  apply bare_of_inName
  · rintro rfl
    exact absurd (h [] (List.mem_singleton_self [])) (by decide)
  · intro c hc
    by_cases hdot : c = '.'
    · exact .inr hdot
    · have hsep : (c == '.') = false := beq_eq_false_iff_ne.2 hdot
      obtain ⟨segment, hsegment, hcs⟩ := Text.exists_mem_segments (· == '.') hc hsep
      exact .inl (forall_isPart (h segment hsegment) c hcs)

theorem isPart_of_isDigit (h : c.isDigit = true) : isPart c = true := by
  simp only [Char.isDigit, Bool.and_eq_true, decide_eq_true_eq] at h
  have hnumeric : Unicode.isNumeric c = true :=
    (Unicode.inRanges_iff _ c).2 ⟨(0x30, 0x39), by decide, h.1, h.2⟩
  rw [isPart, hnumeric, Bool.or_true, Bool.true_or]

theorem any_isDigit_of_mem_reserved :
    ∀ word ∈ reserved, word.toList.any Char.isDigit = false := by decide

/-- Reserved words have no digits, so a name is free as soon as it has one. -/
theorem isReserved_eq_false (hc : c ∈ t) (hdigit : c.isDigit = true) : isReserved t = false := by
  rw [isReserved, List.any_eq_false]
  intro word hword heq
  rw [beq_iff_eq] at heq
  subst heq
  exact List.any_eq_false.1 (any_isDigit_of_mem_reserved word hword) c hc hdigit

end Identifier

namespace Signature

variable {signature head parameters tail spelled : Text} {name : String}

theorem Member.accessor_eq_ok_iff {m : Member} {accepted : List String} :
    m.accessor accepted = .ok name ↔
      m.parameters = [] ∧ String.ofList m.returns ∈ accepted ∧
        Identifier.isIdentifier m.name = true ∧ m.name = name.toList := by
  simp only [accessor, throw_or_eq_ok_iff]
  constructor
  · rintro ⟨hparameters, hreturns, hname, hreturn⟩
    cases hreturn
    simp only [String.toList_ofList]
    exact ⟨by simpa using hparameters, by simpa using hreturns, by simpa using hname, trivial⟩
  · rintro ⟨hparameters, hreturns, hname, heq⟩
    refine ⟨by simpa using hparameters, by simpa using hreturns, by simpa using hname, ?_⟩
    rw [heq, String.ofList_toList]
    rfl

theorem accessor_eq_ok_iff_of_function
    (hparts : parenthesized? (statement signature) = some (head, parameters, tail))
    (hfunction : functionName? head = some spelled) :
    accessor signature = .ok name ↔
      parameters = [] ∧ Identifier.isIdentifier spelled = true ∧ spelled = name.toList ∧
        ∃ returns, functionReturns? tail = some returns ∧
          String.ofList returns ∈ kotlinStrings := by
  simp only [accessor, hparts, hfunction, throw_or_eq_ok_iff]
  cases hreturns : functionReturns? tail with
  | none => simp
  | some returns =>
      simp only [Member.accessor_eq_ok_iff, Option.some_inj, exists_eq_left']
      constructor
      · rintro ⟨-, hparameters, hreturns, hname, heq⟩
        exact ⟨hparameters, hname, heq, hreturns⟩
      · rintro ⟨hparameters, hname, heq, hreturns⟩
        exact ⟨by simp [hparameters], hparameters, hreturns, hname, heq⟩

theorem accessor_eq_ok_iff_of_method
    (hparts : parenthesized? (statement signature) = some (head, parameters, tail))
    (hfunction : functionName? head = none) :
    accessor signature = .ok name ↔
      parameters = [] ∧ tail = [] ∧ ∃ returns spelled, methodHead? head = some (returns, spelled) ∧
        String.ofList returns ∈ javaStrings ∧ Identifier.isIdentifier spelled = true ∧
          spelled = name.toList := by
  simp only [accessor, hparts, hfunction, throw_or_eq_ok_iff]
  cases hmethod : methodHead? head with
  | none => simp
  | some method =>
      simp only [Member.accessor_eq_ok_iff]
      constructor
      · rintro ⟨htail, hparameters, hreturns, hname, heq⟩
        exact ⟨hparameters, by simpa using htail, _, _, rfl, hreturns, hname, heq⟩
      · rintro ⟨hparameters, htail, _, _, hmethod, hreturns, hname, heq⟩
        cases hmethod
        exact ⟨by simp [htail], hparameters, hreturns, hname, heq⟩

theorem isIdentifier_of_accessor (h : accessor signature = .ok name) :
    Identifier.isIdentifier name.toList = true := by
  cases hparts : parenthesized? (statement signature) with
  | none =>
      rw [accessor, hparts] at h
      cases h
  | some parts =>
      obtain ⟨head, parameters, tail⟩ := parts
      cases hfunction : functionName? head with
      | some spelled =>
          obtain ⟨-, hname, rfl, -⟩ := (accessor_eq_ok_iff_of_function hparts hfunction).1 h
          exact hname
      | none =>
          obtain ⟨-, -, -, -, -, -, hname, rfl⟩ :=
            (accessor_eq_ok_iff_of_method hparts hfunction).1 h
          exact hname

end Signature

theorem Entry.checks_of_declaration {e : Entry} {d : Declaration} (h : e.declaration = .ok d) :
    Identifier.isQualified d.interface.toList = true ∧
      1 < (Identifier.dotSegments d.interface.toList).length ∧
      d.typeName.toList = (Identifier.dotSegments d.interface.toList).getLastD [] ∧
      Identifier.isIdentifier d.accessor.toList = true := by
  simp only [declaration, throw_or_eq_ok_iff, bind_eq_ok_iff] at h
  obtain ⟨hqualified, hlength, accessor, haccessor, -, hreturn⟩ := h
  cases hreturn
  rw [Bool.not_eq_true', Bool.not_eq_false] at hqualified
  simp only [String.toList_ofList]
  exact ⟨hqualified, by omega, trivial, Signature.isIdentifier_of_accessor haccessor⟩

/-- A type is named by the last segment of its interface, in front of which there are others. -/
theorem Entry.segments_of_declaration {e : Entry} {d : Declaration} (h : e.declaration = .ok d) :
    ∃ lead, lead ≠ [] ∧
      Identifier.dotSegments d.interface.toList = lead ++ [d.typeName.toList] := by
  obtain ⟨-, hlength, hlast, -⟩ := checks_of_declaration h
  generalize Identifier.dotSegments d.interface.toList = segments at hlength hlast
  have hne : segments ≠ [] := List.ne_nil_of_length_pos (by omega)
  refine ⟨segments.dropLast, List.ne_nil_of_length_pos ?_, ?_⟩
  · rw [List.length_dropLast]
    omega
  · rw [hlast, List.getLastD_eq_getLast?, List.getLast?_eq_some_getLast hne, Option.getD_some,
      List.dropLast_append_getLast]

theorem Entry.names_of_declaration {e : Entry} {d : Declaration} (h : e.declaration = .ok d) :
    Identifier.isIdentifier d.typeName.toList = true ∧
      Identifier.isQualified d.interface.toList = true ∧
      Identifier.isIdentifier d.accessor.toList = true := by
  obtain ⟨hqualified, -, -, haccessor⟩ := checks_of_declaration h
  obtain ⟨lead, -, hsegments⟩ := segments_of_declaration h
  have hall := hqualified
  rw [Identifier.isQualified, hsegments, List.all_eq_true] at hall
  exact ⟨hall _ (List.mem_append_right lead List.mem_cons_self), hqualified, haccessor⟩

theorem Manifest.names_of_settings {m : Manifest} {overrides : Overrides} {settings : Settings}
    (h : m.settings overrides = .ok settings) :
    Identifier.isIdentifier settings.container.toList = true ∧
      isPackage settings.package.toList = true ∧
      isPartPrefix settings.partPrefix.toList = true := by
  simp only [Manifest.settings, throw_or_eq_ok_iff, bind_eq_ok_iff] at h
  obtain ⟨hcontainer, hpackage, hpartPrefix, limits, -, hreturn⟩ := h
  cases hreturn
  exact ⟨by simpa using hcontainer, by simpa using hpackage, by simpa using hpartPrefix⟩

theorem forall_isPart_of_isPartPrefix {t : Text} (h : isPartPrefix t = true) :
    ∀ c ∈ t, Identifier.isPart c = true := by
  rw [isPartPrefix, Bool.or_eq_true, List.isEmpty_iff] at h
  obtain rfl | h := h
  · simp
  · exact fun c hc => Identifier.forall_isPart h c (List.mem_append_left ['x'] hc)

theorem exists_head?_isStart {lead t : Text} (hlead : isPartPrefix lead = true)
    (ht : Identifier.isIdentifier t = true) :
    ∃ c, (lead ++ t).head? = some c ∧ Identifier.isStart c = true := by
  cases lead with
  | nil => exact (Identifier.isIdentifier_iff.1 ht).1
  | cons first lead =>
      -- The prefix was checked in front of an `x`, so it has the start of an identifier.
      rw [isPartPrefix, List.isEmpty_cons, Bool.false_or] at hlead
      exact (Identifier.isIdentifier_iff.1 hlead).1

/-- A prefix, an accessor and a number make an identifier, whatever reserved word the first two
may spell together. -/
theorem isIdentifier_partName {partPrefix accessor : String}
    (hlead : isPartPrefix partPrefix.toList = true)
    (haccessor : Identifier.isIdentifier accessor.toList = true) (index : Nat) :
    Identifier.isIdentifier (partName partPrefix accessor index).toList = true := by
  have hdigits : ∀ c ∈ (toString index).toList, c.isDigit = true := by
    simpa [Nat.toString_eq_repr] using fun c => Nat.isDigit_of_mem_toDigits (by decide) (by decide)
  have hnumber : (toString index).toList ≠ [] := by
    simp [Nat.toString_eq_repr, Nat.toDigits_ne_nil]
  rw [partName, String.toList_append, String.toList_append, Identifier.isIdentifier_iff]
  refine ⟨?_, ?_, ?_⟩
  · obtain ⟨c, hc, hstart⟩ := exists_head?_isStart hlead haccessor
    exact ⟨c, by rw [List.head?_append, hc, Option.some_or], hstart⟩
  · intro c hc
    -- The number adds digits only, and a digit may stand anywhere but in front.
    simp only [List.mem_append] at hc
    obtain (hc | hc) | hc := hc
    · exact forall_isPart_of_isPartPrefix hlead c hc
    · exact Identifier.forall_isPart haccessor c hc
    · exact Identifier.isPart_of_isDigit (hdigits c hc)
  · obtain ⟨c, hc⟩ := List.exists_mem_of_ne_nil _ hnumber
    exact Identifier.isReserved_eq_false (List.mem_append_right _ hc) (hdigits c hc)

theorem bare_partName {partPrefix accessor : String} (hlead : isPartPrefix partPrefix.toList = true)
    (haccessor : Identifier.isIdentifier accessor.toList = true) (index : Nat) :
    Bare (partName partPrefix accessor index).toList :=
  Identifier.bare_of_isIdentifier (isIdentifier_partName hlead haccessor index)

end LiteralPack
