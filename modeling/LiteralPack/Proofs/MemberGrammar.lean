import LiteralPack.Proofs.Layout
import LiteralPack.Proofs.Names

/-!
The grammar of member signatures. A signature is read by its outermost parentheses and by the words
in front of them; what is accepted that way are the two spellings of an accessor, with blanks where
a language allows them, and nothing else. The parentheses are found by their bytes, and everything
between them and around them can be cut out of the signature.
-/

namespace LiteralPack

open Text (Blanks Tight)

/-! ### Bytes -/

namespace Text

variable {t : Text} {c : Char}

/-- The bytes from `start` to `stop` can be cut out of a text, and they encode `s`. -/
structure Slices (t : Text) (start stop : Nat) (s : Text) : Prop where
  start_le : start ≤ stop
  start_valid : String.Pos.Raw.IsValid (String.ofList t) ⟨start⟩
  stop_valid : String.Pos.Raw.IsValid (String.ofList t) ⟨stop⟩
  extract_eq : t.utf8Encode.extract start stop = s.utf8Encode

theorem isValid_utf8Size_append (s t : Text) :
    String.Pos.Raw.IsValid (String.ofList (s ++ t)) ⟨s.utf8Size⟩ := by
  have hvalid := isValid_utf8Size_take (s ++ t) s.length
  rwa [List.take_left] at hvalid

theorem slices_append (before s behind : Text) :
    (before ++ (s ++ behind)).Slices before.utf8Size (before ++ s).utf8Size s where
  start_le := by
    rw [utf8Size_append]
    exact Nat.le_add_right _ _
  start_valid := isValid_utf8Size_append before (s ++ behind)
  stop_valid := by
    rw [← List.append_assoc]
    exact isValid_utf8Size_append (before ++ s) behind
  extract_eq := extract_utf8Encode before s behind

/-- The bytes in front of the first `c`. -/
def FirstAt (c : Char) (t : Text) (offset : Nat) : Prop :=
  ∃ before behind, t = before ++ c :: behind ∧ c ∉ before ∧ before.utf8Size = offset

/-- The bytes in front of the last `c`. -/
def LastAt (c : Char) (t : Text) (offset : Nat) : Prop :=
  ∃ before behind, t = before ++ c :: behind ∧ c ∉ behind ∧ before.utf8Size = offset

end Text

namespace Signature

/-! ### The grammar -/

/-- Modifiers, each with blanks behind it. -/
inductive Modifiers : Text → Prop
  | nil : Modifiers []
  | cons {word gap rest : Text} (hword : word = "public".toList ∨ word = "abstract".toList)
      (hgap : Blanks gap) (ne_nil : gap ≠ []) (tail : Modifiers rest) :
      Modifiers (word ++ (gap ++ rest))

/-- The member of a name, as either language spells it. -/
inductive Declares (name : Text) : Text → Prop
  | function {a b inside c d returns : Text} (ha : Blanks a) (hb : Blanks b)
      (hinside : Blanks inside) (hc : Blanks c) (hd : Blanks d)
      (hreturns : returns = "String".toList ∨ returns = "kotlin.String".toList) :
      Declares name
        ("fun ".toList ++ (a ++ (name ++ (b ++
          '(' :: (inside ++ ')' :: (c ++ ':' :: (d ++ returns)))))))
  | method {lead returns gap b inside : Text} (hlead : Modifiers lead)
      (hreturns : returns = "String".toList ∨ returns = "java.lang.String".toList)
      (hgap : Blanks gap) (ne_nil : gap ≠ []) (hb : Blanks b) (hinside : Blanks inside) :
      Declares name
        (lead ++ (returns ++ (gap ++ (name ++ (b ++ '(' :: (inside ++ [')']))))))

/-- A member with blanks and semicolons around it. -/
inductive Written (name : Text) : Text → Prop
  | mk {front body a semicolons b : Text} (hfront : Blanks front) (hbody : Declares name body)
      (ha : Blanks a) (hsemicolons : ∀ c ∈ semicolons, c = ';') (hb : Blanks b) :
      Written name (front ++ (body ++ (a ++ (semicolons ++ b))))

variable {t head parameters tail name before behind returns : Text}

/-! ### What stands around a member -/

theorem exists_append_statement (t : Text) :
    ∃ front a semicolons b, Blanks front ∧ Blanks a ∧ (∀ c ∈ semicolons, c = ';') ∧ Blanks b ∧
      t = front ++ (statement t ++ (a ++ (semicolons ++ b))) := by
  obtain ⟨front, b, hfront, hb, ht⟩ := Text.exists_append_trim t
  obtain ⟨semicolons, hsemicolons, htrim⟩ :=
    Text.exists_append_dropRightWhile (· == ';') (Text.trim t)
  obtain ⟨a, ha, hstatement⟩ := Text.exists_append_dropRightWhile Unicode.isBlank
    (Text.dropRightWhile (· == ';') (Text.trim t))
  refine ⟨front, a, semicolons, b, hfront, ha, fun c hc => beq_iff_eq.1 (hsemicolons c hc), hb, ?_⟩
  conv_lhs => rw [ht, htrim, hstatement, List.append_assoc, List.append_assoc]
  rfl

theorem statement_append {front body a semicolons b : Text} (hfront : Blanks front)
    (hbody : Tight body) (hlast : body.getLast? ≠ some ';') (ha : Blanks a)
    (hsemicolons : ∀ c ∈ semicolons, c = ';') (hb : Blanks b) :
    statement (front ++ (body ++ (a ++ (semicolons ++ b)))) = body := by
  have hends : ∀ c, (body ++ a).getLast? = some c → (c == ';') = false := by
    intro c hc
    rw [List.getLast?_append, Option.or_eq_some_iff] at hc
    rw [beq_eq_false_iff_ne]
    rintro rfl
    obtain hc | ⟨-, hc⟩ := hc
    · exact absurd (ha _ (List.mem_of_getLast? hc)) (by decide)
    · exact hlast hc
  have hpositive : ∀ c ∈ semicolons, (c == ';') = true := by simpa using hsemicolons
  by_cases hnone : semicolons = []
  · -- Without semicolons the blanks behind the member run together and are trimmed at once.
    have htrim : Text.trim (front ++ (body ++ (a ++ b))) = body :=
      hbody.trim_append hfront (Text.blanks_append_iff.2 ⟨ha, hb⟩)
    have hkeep : Text.dropRightWhile (· == ';') body = body :=
      Text.dropRightWhile_eq_self fun c hc => beq_eq_false_iff_ne.2 fun h => hlast (h ▸ hc)
    rw [hnone, List.nil_append, statement, htrim, hkeep]
    simpa using hbody.trimRight_append Text.blanks_nil
  · have htight : Tight semicolons :=
      Text.tight_of_forall hnone fun c hc => by rw [hsemicolons c hc]; decide
    have htrim : Text.trim (front ++ (body ++ (a ++ semicolons) ++ b)) =
        body ++ (a ++ semicolons) := (hbody.append htight a).trim_append hfront hb
    simp only [List.append_assoc] at htrim
    rw [statement, htrim, ← List.append_assoc, Text.dropRightWhile_append_of_pos hpositive,
      Text.dropRightWhile_eq_self hends]
    exact hbody.trimRight_append ha

/-! ### The outermost parentheses -/

theorem parenthesized?_eq_some_iff :
    parenthesized? t = some (head, parameters, tail) ↔
      ∃ before inside behind, t = before ++ '(' :: (inside ++ ')' :: behind) ∧ '(' ∉ before ∧
        ')' ∉ behind ∧ Text.trim before = head ∧ Text.trim inside = parameters ∧
        Text.trim behind = tail := by
  simp only [parenthesized?, Option.bind_eq_bind, Option.bind_eq_some_iff, Prod.exists,
    Text.splitFirst?_eq_some_iff, Text.splitLast?_eq_some_iff, Option.pure_def, Option.some_inj,
    Prod.mk.injEq]
  constructor
  · rintro ⟨before, _, ⟨rfl, hopen⟩, inside, behind, ⟨rfl, hclose⟩, hparts⟩
    exact ⟨before, inside, behind, rfl, hopen, hclose, hparts⟩
  · rintro ⟨before, inside, behind, rfl, hopen, hclose, hparts⟩
    exact ⟨before, _, ⟨rfl, hopen⟩, inside, behind, ⟨rfl, hclose⟩, hparts⟩

/-- Once the last closing parenthesis is not in front of the first opening one, what they enclose
and what stands on either side can be cut out. -/
theorem exists_slices {opens closes : Nat} (hopen : Text.FirstAt '(' t opens)
    (hclose : Text.LastAt ')' t closes) (hle : opens ≤ closes) :
    ∃ before inside behind, t.Slices 0 opens before ∧ t.Slices (opens + 1) closes inside ∧
      t.Slices (closes + 1) t.utf8Size behind ∧
      parenthesized? t = some (Text.trim before, Text.trim inside, Text.trim behind) := by
  obtain ⟨before, rest, rfl, hbefore, rfl⟩ := hopen
  obtain ⟨front, behind, hsplit, hbehind, rfl⟩ := hclose
  obtain ⟨inside, rfl⟩ : ∃ inside, front = before ++ '(' :: inside := by
    rcases List.append_eq_append_iff.1 hsplit with ⟨lead, rfl, hlead⟩ | ⟨lead, rfl, hlead⟩
    · cases lead with
      | nil => cases hlead
      | cons c inside =>
          obtain ⟨rfl, -⟩ := List.cons.inj hlead
          exact ⟨inside, rfl⟩
    · -- Otherwise the closing one would lie in front.
      cases lead with
      | nil => cases hlead
      | cons c lead =>
          have hpos := Measure.utf8.width_pos c
          have hsize : Text.utf8Size (front ++ c :: lead) =
              front.utf8Size + (Measure.utf8.width c + Text.utf8Size lead) :=
            Text.utf8Size_append front (c :: lead)
          omega
  rw [hsplit]
  refine ⟨before, inside, behind, ?_, ?_, ?_, ?_⟩
  · simpa using Text.slices_append [] before ('(' :: (inside ++ ')' :: behind))
  · have hslice := Text.slices_append (before ++ ['(']) inside (')' :: behind)
    have hstart : Text.utf8Size (before ++ ['(']) = before.utf8Size + 1 :=
      Text.utf8Size_append before ['(']
    rw [hstart] at hslice
    simpa using hslice
  · have hslice := Text.slices_append (before ++ '(' :: (inside ++ [')'])) behind []
    have hstart : Text.utf8Size (before ++ '(' :: (inside ++ [')'])) =
        Text.utf8Size (before ++ '(' :: inside) + 1 := by
      rw [← List.cons_append, ← List.append_assoc]
      exact Text.utf8Size_append (before ++ '(' :: inside) [')']
    rw [hstart] at hslice
    simpa using hslice
  · rw [parenthesized?_eq_some_iff]
    exact ⟨before, inside, behind, by simp, hbefore, hbehind, rfl, rfl, rfl⟩

/-! ### Functions -/

theorem exists_of_functionName? (h : functionName? (Text.trim before) = some name) :
    ∃ front a b, Blanks front ∧ Blanks a ∧ Blanks b ∧
      before = front ++ ("fun ".toList ++ (a ++ (name ++ b))) := by
  obtain ⟨front, behind, hfront, hbehind, hbefore⟩ := Text.exists_append_trim before
  unfold functionName? at h
  split at h
  next rest hhead =>
    cases h
    obtain ⟨a, b, ha, hb, hrest⟩ := Text.exists_append_trim rest
    refine ⟨front, a, b ++ behind, hfront, ha, Text.blanks_append_iff.2 ⟨hb, hbehind⟩, ?_⟩
    conv_lhs => rw [hbefore, hhead, hrest]
    simp
  next => cases h

theorem functionName?_append {a b : Text} (ha : Blanks a) (hname : Tight name) (hb : Blanks b) :
    functionName? (Text.trim ("fun ".toList ++ (a ++ (name ++ b)))) = some name := by
  have hfun : Tight "fun".toList := ⟨⟨'f', rfl, by decide⟩, 'n', rfl, by decide⟩
  have htrim : Text.trim ("fun ".toList ++ (a ++ (name ++ b))) = "fun ".toList ++ (a ++ name) := by
    simpa using (hfun.append hname (" ".toList ++ a)).trim_append Text.blanks_nil hb
  have hkept : Text.trim (a ++ name) = name := by
    simpa using hname.trim_append ha Text.blanks_nil
  rw [htrim]
  exact congrArg some hkept

theorem exists_of_functionReturns? (h : functionReturns? (Text.trim behind) = some returns)
    (hunit : returns ≠ "Unit".toList) :
    ∃ c d e, Blanks c ∧ Blanks d ∧ Blanks e ∧ behind = c ++ ':' :: (d ++ (returns ++ e)) := by
  obtain ⟨c, e, hc, he, hbehind⟩ := Text.exists_append_trim behind
  unfold functionReturns? at h
  split at h
  next => exact absurd (Option.some_inj.1 h).symm hunit
  next rest htail =>
    cases h
    obtain ⟨d, e', hd, he', hrest⟩ := Text.exists_append_trim rest
    refine ⟨c, d, e' ++ e, hc, hd, Text.blanks_append_iff.2 ⟨he', he⟩, ?_⟩
    conv_lhs => rw [hbehind, htail, hrest]
    simp
  next => cases h

theorem functionReturns?_append {c d : Text} (hc : Blanks c) (hd : Blanks d)
    (hreturns : Tight returns) :
    functionReturns? (Text.trim (c ++ ':' :: (d ++ returns))) = some returns := by
  have hcolon : Tight [':'] := ⟨⟨':', rfl, by decide⟩, ':', rfl, by decide⟩
  have htrim : Text.trim (c ++ ':' :: (d ++ returns)) = ':' :: (d ++ returns) := by
    simpa using (hcolon.append hreturns d).trim_append hc Text.blanks_nil
  have hkept : Text.trim (d ++ returns) = returns := by
    simpa using hreturns.trim_append hd Text.blanks_nil
  rw [htrim]
  exact congrArg some hkept

/-! ### Methods -/

theorem ofList_mem_pair_iff {t : Text} {a b : String} :
    String.ofList t ∈ [a, b] ↔ t = a.toList ∨ t = b.toList := by
  simp only [List.mem_cons, List.not_mem_nil, or_false, ← String.toList_inj, String.toList_ofList]

theorem Modifiers.exists_words {lead : Text} (h : Modifiers lead) :
    ∃ words : List Text, (∀ w ∈ words, String.ofList w ∈ modifiers) ∧
      ∀ t, Text.words (lead ++ t) = words ++ Text.words t := by
  induction h with
  | nil => exact ⟨[], List.forall_mem_nil _, fun _ => rfl⟩
  | @cons word gap rest hword hgap ne_nil _ ih =>
      obtain ⟨words, hwords, hrest⟩ := ih
      have hsingle : Text.words word = [word] := by
        rcases hword with rfl | rfl <;> decide
      refine ⟨word :: words, List.forall_mem_cons.2 ⟨ofList_mem_pair_iff.2 hword, hwords⟩, ?_⟩
      intro t
      rw [List.append_assoc, List.append_assoc, Text.words_append_blanks_append hgap ne_nil,
        hsingle, hrest]
      rfl

/-- The last word is the name, and what stands in front of it is the return type once modifiers
are dropped. -/
theorem methodHead?_eq_some_iff :
    methodHead? head = some (returns, name) ↔ ∃ front, Text.words head = front ++ [name] ∧
      let kept := front.dropWhile fun w => modifiers.contains (String.ofList w)
      kept ≠ [] ∧ [' '].intercalate kept = returns := by
  constructor
  · intro h
    simp only [methodHead?, Option.bind_eq_bind, Option.bind_eq_some_iff] at h
    obtain ⟨last, hlast, h⟩ := h
    obtain ⟨front, hfront⟩ := List.getLast?_eq_some_iff.1 hlast
    rw [hfront, List.dropLast_concat] at h
    split at h
    next => cases h
    next hkept =>
      cases h
      exact ⟨front, hfront, fun hnil => hkept (by rw [hnil]; rfl), rfl⟩
  · rintro ⟨front, hfront, hne, rfl⟩
    have hkept : ¬ (front.dropWhile fun w => modifiers.contains (String.ofList w)).isEmpty = true :=
      fun hnil => hne (List.isEmpty_iff.1 hnil)
    simp only [methodHead?, hfront, List.getLast?_concat, List.dropLast_concat, Option.bind_eq_bind,
      Option.bind_some, if_neg hkept]
    rfl

theorem methodHead?_of_words {words : List Text} (hwords : ∀ w ∈ words, String.ofList w ∈ modifiers)
    (hreturns : String.ofList returns ∉ modifiers)
    (h : Text.words head = words ++ [returns, name]) :
    methodHead? head = some (returns, name) := by
  have hkept : (words ++ [returns]).dropWhile (fun w => modifiers.contains (String.ofList w)) =
      [returns] := by
    rw [List.dropWhile_append_of_pos fun w hw => List.contains_iff_mem.2 (hwords w hw),
      List.dropWhile_cons_of_neg (by simpa using hreturns)]
  refine methodHead?_eq_some_iff.2 ⟨words ++ [returns], by rw [h, List.append_cons], ?_⟩
  rw [hkept]
  exact ⟨List.cons_ne_nil returns [], List.intercalate_singleton⟩

theorem exists_words_of_methodHead? (h : methodHead? head = some (returns, name))
    (hspace : ' ' ∉ returns) :
    ∃ words : List Text, (∀ w ∈ words, String.ofList w ∈ modifiers) ∧
      Text.words head = words ++ [returns, name] := by
  obtain ⟨front, hfront, hne, hreturns⟩ := methodHead?_eq_some_iff.1 h
  let isModifier : Text → Bool := fun w => modifiers.contains (String.ofList w)
  have hwords : ∀ w ∈ front.takeWhile isModifier, String.ofList w ∈ modifiers := fun w hw =>
    List.contains_iff_mem.1 (List.mem_takeWhile_imp (p := isModifier) hw)
  have hkept : front.dropWhile isModifier = [returns] := by
    have hsingle := Text.eq_singleton_of_not_mem_intercalate hne (hreturns ▸ hspace)
    rwa [hreturns] at hsingle
  refine ⟨front.takeWhile isModifier, hwords, ?_⟩
  calc Text.words head = front ++ [name] := hfront
    _ = front.takeWhile isModifier ++ [returns] ++ [name] := by
        rw [← hkept, List.takeWhile_append_dropWhile]
    _ = front.takeWhile isModifier ++ [returns, name] := List.append_assoc _ _ _

theorem exists_of_words_eq {words : List Text} (hwords : ∀ w ∈ words, String.ofList w ∈ modifiers)
    (h : Text.words t = words ++ [returns, name]) :
    ∃ lead gap b, Modifiers lead ∧ Blanks gap ∧ gap ≠ [] ∧ Blanks b ∧
      t = t.takeWhile Unicode.isBlank ++ (lead ++ (returns ++ (gap ++ (name ++ b)))) := by
  induction words generalizing t with
  | nil =>
      obtain ⟨rest, ht, hrest, hgap⟩ := Text.exists_of_words_eq_cons h
      obtain ⟨b, hb, hnil, -⟩ := Text.exists_of_words_eq_cons hrest
      refine ⟨[], _, b, .nil, Text.blanks_takeWhile rest, hgap (List.cons_ne_nil name []),
        Text.blanks_of_words_eq_nil hnil, ?_⟩
      rw [List.nil_append, ← hb, ← ht]
  | cons word words ih =>
      rw [List.forall_mem_cons] at hwords
      obtain ⟨rest, ht, hrest, hgap⟩ := Text.exists_of_words_eq_cons h
      obtain ⟨lead, gap, b, hlead, hblanks, hne, hb, hsplit⟩ := ih hwords.2 hrest
      refine ⟨_, gap, b, .cons (ofList_mem_pair_iff.1 hwords.1) (Text.blanks_takeWhile rest)
        (hgap (by simp)) hlead, hblanks, hne, hb, ?_⟩
      simp only [List.append_assoc]
      rw [← hsplit, ← ht]

theorem exists_of_methodHead? (h : methodHead? (Text.trim before) = some (returns, name))
    (hspace : ' ' ∉ returns) :
    ∃ front lead gap b, Blanks front ∧ Modifiers lead ∧ Blanks gap ∧ gap ≠ [] ∧ Blanks b ∧
      before = front ++ (lead ++ (returns ++ (gap ++ (name ++ b)))) := by
  obtain ⟨words, hwords, hsplit⟩ := exists_words_of_methodHead? h hspace
  rw [Text.words_trim] at hsplit
  obtain ⟨lead, gap, b, hlead, hgap, hne, hb, hbefore⟩ := exists_of_words_eq hwords hsplit
  exact ⟨_, lead, gap, b, Text.blanks_takeWhile before, hlead, hgap, hne, hb, hbefore⟩

theorem methodHead?_append {lead gap b : Text} (hlead : Modifiers lead)
    (hreturns : returns = "String".toList ∨ returns = "java.lang.String".toList)
    (hgap : Blanks gap) (hne : gap ≠ []) (hname : Text.words name = [name]) (hb : Blanks b) :
    methodHead? (Text.trim (lead ++ (returns ++ (gap ++ (name ++ b))))) = some (returns, name) := by
  obtain ⟨words, hwords, hlead⟩ := hlead.exists_words
  have htype : Text.words returns = [returns] := by
    rcases hreturns with rfl | rfl <;> decide
  have hmodifier : String.ofList returns ∉ modifiers := by
    rcases hreturns with rfl | rfl <;> decide
  apply methodHead?_of_words hwords hmodifier
  rw [Text.words_trim, hlead, Text.words_append_blanks_append hgap hne, htype,
    Text.words_append_blanks hb, hname]
  rfl

/-- A method does not begin like a function. -/
theorem Modifiers.head?_append {lead : Text} (h : Modifiers lead)
    (hreturns : returns = "String".toList ∨ returns = "java.lang.String".toList) (rest : Text) :
    ∃ c, (lead ++ (returns ++ rest)).head? = some c ∧ Unicode.isBlank c = false ∧ c ≠ 'f' := by
  cases h with
  | nil =>
      rcases hreturns with rfl | rfl
      · exact ⟨'S', rfl, by decide, by decide⟩
      · exact ⟨'j', rfl, by decide, by decide⟩
  | cons hword =>
      rcases hword with rfl | rfl
      · exact ⟨'p', rfl, by decide, by decide⟩
      · exact ⟨'a', rfl, by decide, by decide⟩

theorem functionName?_eq_none (h : t.head? ≠ some 'f') : functionName? t = none := by
  unfold functionName?
  split
  next => exact absurd rfl h
  next => rfl

theorem functionName?_method {lead rest b : Text} (hlead : Modifiers lead)
    (hreturns : returns = "String".toList ∨ returns = "java.lang.String".toList)
    (hname : Tight name) (hb : Blanks b) :
    functionName? (Text.trim (lead ++ (returns ++ (rest ++ (name ++ b))))) = none := by
  obtain ⟨c, hc, hblank, hletter⟩ := hlead.head?_append hreturns (rest ++ name)
  obtain ⟨d, hd, hd'⟩ := hname.last
  have htight : Tight (lead ++ (returns ++ (rest ++ name))) :=
    ⟨⟨c, hc, hblank⟩, d, by simp [List.getLast?_append, hd], hd'⟩
  have htrim := htight.trim_append Text.blanks_nil hb
  simp only [List.nil_append, List.append_assoc] at htrim
  rw [htrim]
  exact functionName?_eq_none fun hf => hletter (Option.some_inj.1 (hc.symm.trans hf))

theorem Modifiers.paren_not_mem {lead : Text} (h : Modifiers lead) : '(' ∉ lead := by
  induction h with
  | nil => exact List.not_mem_nil
  | cons hword hgap _ _ ih =>
      simp only [List.mem_append, not_or]
      refine ⟨?_, hgap.not_mem (by decide), ih⟩
      rcases hword with rfl | rfl <;> decide

/-! ### Reading what is written -/

theorem Declares.head?_eq {body : Text} (h : Declares name body) :
    ∃ c, body.head? = some c ∧ Unicode.isBlank c = false := by
  cases h with
  | function => exact ⟨'f', rfl, by decide⟩
  | method hlead hreturns =>
      obtain ⟨c, hc, hblank, -⟩ := hlead.head?_append hreturns _
      exact ⟨c, hc, hblank⟩

theorem Declares.getLast?_eq {body : Text} (h : Declares name body) :
    body.getLast? = some 'g' ∨ body.getLast? = some ')' := by
  cases h with
  | @function a b inside c d returns _ _ _ _ _ hreturns =>
      have hlast : returns.getLast? = some 'g' := by rcases hreturns with rfl | rfl <;> decide
      left
      simp [List.getLast?_append, List.getLast?_cons, hlast]
  | method =>
      right
      simp [List.getLast?_append, List.getLast?_cons]

theorem Declares.tight {body : Text} (h : Declares name body) : Tight body := by
  refine ⟨h.head?_eq, ?_⟩
  rcases h.getLast?_eq with hlast | hlast
  · exact ⟨_, hlast, by decide⟩
  · exact ⟨_, hlast, by decide⟩

theorem Declares.getLast?_ne {body : Text} (h : Declares name body) :
    body.getLast? ≠ some ';' := by
  rcases h.getLast?_eq with hlast | hlast <;> simp [hlast]

theorem parenthesized?_append {inside : Text} (hopen : '(' ∉ before) (hinside : Blanks inside)
    (hclose : ')' ∉ behind) :
    parenthesized? (before ++ '(' :: (inside ++ ')' :: behind)) =
      some (Text.trim before, [], Text.trim behind) :=
  parenthesized?_eq_some_iff.2
    ⟨before, inside, behind, rfl, hopen, hclose, rfl, Text.trim_eq_nil_iff.2 hinside, rfl⟩

theorem accessor_of_declares {signature body : Text} {name : String}
    (hname : Identifier.isIdentifier name.toList = true) (h : Declares name.toList body)
    (hstatement : statement signature = body) : accessor signature = .ok name := by
  have hbare := Identifier.bare_of_isIdentifier hname
  have htight : Tight name.toList := Text.tight_of_forall hbare.ne_nil hbare.not_blank
  have hparen {s : Text} (hs : Blanks s) : '(' ∉ s := hs.not_mem (by decide)
  cases h with
  | @function a b inside c d returns ha hb hinside hc hd hreturns =>
      have hopen : '(' ∉ "fun ".toList ++ (a ++ (name.toList ++ b)) := by
        simp only [List.mem_append, not_or]
        exact ⟨by decide, hparen ha, hbare.not_paren, hparen hb⟩
      have hclose : ')' ∉ c ++ ':' :: (d ++ returns) := by
        simp only [List.mem_append, List.mem_cons, not_or]
        refine ⟨hc.not_mem (by decide), by decide, hd.not_mem (by decide), ?_⟩
        rcases hreturns with rfl | rfl <;> decide
      have hreturn : Tight returns := by
        rcases hreturns with rfl | rfl
        · exact ⟨⟨'S', rfl, by decide⟩, 'g', rfl, by decide⟩
        · exact ⟨⟨'k', rfl, by decide⟩, 'g', rfl, by decide⟩
      have hparts := parenthesized?_append hopen hinside hclose
      simp only [List.append_assoc] at hparts
      rw [← hstatement] at hparts
      refine (accessor_eq_ok_iff_of_function hparts (functionName?_append ha htight hb)).2
        ⟨rfl, hname, rfl, returns, functionReturns?_append hc hd hreturn, ?_⟩
      exact ofList_mem_pair_iff.2 hreturns
  | @method lead returns gap b inside hlead hreturns hgap ne_nil hb hinside =>
      have hopen : '(' ∉ lead ++ (returns ++ (gap ++ (name.toList ++ b))) := by
        simp only [List.mem_append, not_or]
        refine ⟨hlead.paren_not_mem, ?_, hparen hgap, hbare.not_paren, hparen hb⟩
        rcases hreturns with rfl | rfl <;> decide
      have hclose : ')' ∉ ([] : Text) := List.not_mem_nil
      have hparts := parenthesized?_append hopen hinside hclose
      simp only [List.append_assoc] at hparts
      rw [← hstatement] at hparts
      have hwords : Text.words name.toList = [name.toList] := hbare.words_eq
      have hmethod := methodHead?_append hlead hreturns hgap ne_nil hwords hb
      refine (accessor_eq_ok_iff_of_method hparts (functionName?_method hlead hreturns htight hb)).2
        ⟨rfl, rfl, returns, _, hmethod, ofList_mem_pair_iff.2 hreturns, hname, rfl⟩

theorem declares_of_accessor {signature : Text} {name : String}
    (h : accessor signature = .ok name) :
    ∃ front body e, Blanks front ∧ Declares name.toList body ∧ Blanks e ∧
      statement signature = front ++ (body ++ e) := by
  cases hparts : parenthesized? (statement signature) with
  | none =>
      rw [accessor, hparts] at h
      cases h
  | some parts =>
      obtain ⟨head, parameters, tail⟩ := parts
      obtain ⟨before, inside, behind, hstatement, -, -, rfl, rfl, rfl⟩ :=
        parenthesized?_eq_some_iff.1 hparts
      cases hfunction : functionName? (Text.trim before) with
      | some spelled =>
          obtain ⟨hinside, -, rfl, returns, hreturns, hstring⟩ :=
            (accessor_eq_ok_iff_of_function hparts hfunction).1 h
          have hreturns' := ofList_mem_pair_iff.1 hstring
          have hunit : returns ≠ "Unit".toList := by
            rcases hreturns' with rfl | rfl <;> decide
          obtain ⟨front, a, b, hfront, ha, hb, rfl⟩ := exists_of_functionName? hfunction
          obtain ⟨c, d, e, hc, hd, he, rfl⟩ := exists_of_functionReturns? hreturns hunit
          refine ⟨front, _, e, hfront,
            .function ha hb (Text.trim_eq_nil_iff.1 hinside) hc hd hreturns', he, ?_⟩
          rw [hstatement]
          simp
      | none =>
          obtain ⟨hinside, hbehind, returns, _, hmethod, hstring, -, rfl⟩ :=
            (accessor_eq_ok_iff_of_method hparts hfunction).1 h
          have hreturns := ofList_mem_pair_iff.1 hstring
          have hspace : ' ' ∉ returns := by
            rcases hreturns with rfl | rfl <;> decide
          obtain ⟨front, lead, gap, b, hfront, hlead, hgap, hne, hb, rfl⟩ :=
            exists_of_methodHead? hmethod hspace
          refine ⟨front, _, behind, hfront, .method hlead hreturns hgap hne hb
            (Text.trim_eq_nil_iff.1 hinside), Text.trim_eq_nil_iff.1 hbehind, ?_⟩
          rw [hstatement]
          simp

theorem accessor_eq_ok_iff_written {signature : Text} {name : String} :
    accessor signature = .ok name ↔
      Identifier.isIdentifier name.toList = true ∧ Written name.toList signature := by
  constructor
  · intro h
    refine ⟨isIdentifier_of_accessor h, ?_⟩
    obtain ⟨front, body, e, hfront, hbody, he, hstatement⟩ := declares_of_accessor h
    obtain ⟨front', a, semicolons, b, hfront', ha, hsemicolons, hb, hsignature⟩ :=
      exists_append_statement signature
    have hwritten := Written.mk (Text.blanks_append_iff.2 ⟨hfront', hfront⟩) hbody
      (Text.blanks_append_iff.2 ⟨he, ha⟩) hsemicolons hb
    rw [hsignature, hstatement]
    simpa using hwritten
  · rintro ⟨hname, hwritten⟩
    cases hwritten with
    | mk hfront hbody ha hsemicolons hb =>
        exact accessor_of_declares hname hbody
          (statement_append hfront hbody.tight hbody.getLast?_ne ha hsemicolons hb)

/-! ### Refusals -/

/-- What a signature may be refused for. -/
inductive Refusal (signature : Text) : ShapeError → Prop
  | malformed : Refusal signature (.malformedMember (String.ofList signature))
  | parameters {head parameters tail : Text} (name : String)
      (hparts : parenthesized? (statement signature) = some (head, parameters, tail))
      (ne_nil : parameters ≠ []) : Refusal signature (.hasParameters name)
  | returns {returns : String} (name : String) (ne : returns ≠ "String") :
      Refusal signature (.nonTextReturn name returns)
  | identifier {name : String} (h : Identifier.isIdentifier name.toList = false) :
      Refusal signature (.invalidIdentifier name)

theorem Member.refusal_of_accessor {signature : Text} {m : Member} {accepted : List String}
    {cause : ShapeError}
    (hparts : parenthesized? (statement signature) = some (head, m.parameters, tail))
    (haccepted : "String" ∈ accepted) (h : m.accessor accepted = .error cause) :
    Refusal signature cause := by
  simp only [Member.accessor, throw_or_eq_error_iff] at h
  obtain ⟨hparameters, rfl⟩ | ⟨-, ⟨hreturns, rfl⟩ | ⟨-, ⟨hname, rfl⟩ | ⟨-, h⟩⟩⟩ := h
  · exact .parameters _ hparts (by simpa using hparameters)
  · refine .returns _ fun heq => ?_
    rw [heq, List.contains_iff_mem.2 haccepted] at hreturns
    cases hreturns
  · exact .identifier (by simpa using hname)
  · cases h

theorem refusal_of_accessor {signature : Text} {cause : ShapeError}
    (h : accessor signature = .error cause) : Refusal signature cause := by
  cases hparts : parenthesized? (statement signature) with
  | none =>
      rw [accessor, hparts] at h
      cases h
      exact .malformed
  | some parts =>
      obtain ⟨head, parameters, tail⟩ := parts
      cases hfunction : functionName? head with
      | some name =>
          simp only [accessor, hparts, hfunction, throw_or_eq_error_iff] at h
          obtain ⟨hparameters, rfl⟩ | ⟨-, h⟩ := h
          · exact .parameters _ hparts (by simpa using hparameters)
          · cases hreturns : functionReturns? tail with
            | none =>
                rw [hreturns] at h
                cases h
                exact .malformed
            | some returns =>
                rw [hreturns] at h
                exact Member.refusal_of_accessor (m := ⟨name, parameters, returns⟩) hparts
                  (by decide) h
      | none =>
          simp only [accessor, hparts, hfunction, throw_or_eq_error_iff] at h
          obtain ⟨-, rfl⟩ | ⟨-, h⟩ := h
          · exact .malformed
          · cases hmethod : methodHead? head with
            | none =>
                rw [hmethod] at h
                cases h
                exact .malformed
            | some method =>
                rw [hmethod] at h
                exact Member.refusal_of_accessor (m := ⟨method.2, parameters, method.1⟩) hparts
                  (by decide) h

/-- A signature gives a name exactly if it is written as the grammar has it, and is refused for its
shape, its parameters, its return type or its name otherwise. On the way nothing is cut out of it
but at the bounds of its code points. -/
theorem accessor_exact (signature : Text) :
    (∀ name, accessor signature = .ok name ↔
      Identifier.isIdentifier name.toList = true ∧ Written name.toList signature) ∧
    ((∀ name : String, Identifier.isIdentifier name.toList = true →
        ¬ Written name.toList signature) →
      ∃ cause, accessor signature = .error cause ∧ Refusal signature cause) ∧
    ∀ opens closes, Text.FirstAt '(' (statement signature) opens →
      Text.LastAt ')' (statement signature) closes → opens ≤ closes →
      ∃ before inside behind,
        (statement signature).Slices 0 opens before ∧
        (statement signature).Slices (opens + 1) closes inside ∧
        (statement signature).Slices (closes + 1) (statement signature).utf8Size behind ∧
        parenthesized? (statement signature) =
          some (Text.trim before, Text.trim inside, Text.trim behind) := by
  refine ⟨fun name => accessor_eq_ok_iff_written, fun hnone => ?_,
    fun opens closes => exists_slices⟩
  cases h : accessor signature with
  | error cause => exact ⟨cause, rfl, refusal_of_accessor h⟩
  | ok name =>
      obtain ⟨hname, hwritten⟩ := accessor_eq_ok_iff_written.1 h
      exact absurd hwritten (hnone name hname)

/-- Blanks of several kinds, a modifier that comes twice, and semicolons. -/
def spacious : Text := "\u00a0public\tabstract public java.lang.String\u3000größe ( \n) ;; ".toList

def nullable : Text := "fun größe(): String?".toList

theorem accessor_exact_nullable :
    accessor spacious = .ok "größe" ∧
      Identifier.isIdentifier "größe".toList = true ∧ Written "größe".toList spacious ∧
      (∃ cause, accessor nullable = .error cause ∧ Refusal nullable cause) ∧
      Text.FirstAt '(' (statement nullable) 11 ∧ Text.LastAt ')' (statement nullable) 12 ∧
      ∃ before inside behind,
        (statement nullable).Slices 0 11 before ∧ (statement nullable).Slices 12 12 inside ∧
        (statement nullable).Slices 13 (statement nullable).utf8Size behind ∧
        parenthesized? (statement nullable) =
          some (Text.trim before, Text.trim inside, Text.trim behind) := by
  have hspacious : accessor spacious = .ok "größe" := by decide +kernel
  have hnullable : accessor nullable = .error (.nonTextReturn "größe" "String?") := by
    decide +kernel
  have hnone : ∀ name : String, Identifier.isIdentifier name.toList = true →
      ¬ Written name.toList nullable := by
    intro name hname hwritten
    have hok := ((accessor_exact nullable).1 name).2 ⟨hname, hwritten⟩
    rw [hnullable] at hok
    cases hok
  have hopen : Text.FirstAt '(' (statement nullable) 11 :=
    ⟨"fun größe".toList, "): String?".toList, by decide +kernel, by decide, by decide⟩
  have hclose : Text.LastAt ')' (statement nullable) 12 :=
    ⟨"fun größe(".toList, ": String?".toList, by decide +kernel, by decide, by decide⟩
  obtain ⟨hname, hwritten⟩ := ((accessor_exact spacious).1 "größe").1 hspacious
  obtain ⟨-, hrefused, hslices⟩ := accessor_exact nullable
  exact ⟨hspacious, hname, hwritten, hrefused hnone, hopen, hclose,
    hslices 11 12 hopen hclose (by decide)⟩

end Signature

end LiteralPack
