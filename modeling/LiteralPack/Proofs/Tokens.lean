import LiteralPack.Proofs.Spelling

/-!
Bodies as sequences of tokens. A token is the least part of a body that stands for a code point, so
a surrogate pair is one token. Every body is a sequence of tokens up to its end or to the first
fault, and no body is such a sequence in two ways; what decoding gives or reports can be read off.
The tokens are stated without the decoder: digits by what they are when written, letters as a list.
-/

namespace LiteralPack

namespace Hex

variable {a b c d : Char} {n u v : Nat} {digits : Text}

/-- Four digits, in either case, that a number is written with. -/
def Writes (digits : Text) (u : Nat) : Prop := digits.map Char.toUpper = four u ∧ u < 0x10000

theorem toNat_toUpper (c : Char) :
    c.toUpper.toNat = if 97 ≤ c.toNat ∧ c.toNat ≤ 122 then c.toNat - 32 else c.toNat := by
  unfold Char.toUpper
  split
  next h =>
    have hlow : 97 ≤ c.toNat := UInt32.le_iff_toNat_le.1 h.1
    have hhigh : c.toNat ≤ 122 := UInt32.le_iff_toNat_le.1 h.2
    have hsum : (c.val + ('A'.val - 'a'.val)).toNat = (c.toNat + 4294967264) % 4294967296 :=
      UInt32.toNat_add _ _
    rw [if_pos ⟨hlow, hhigh⟩]
    refine hsum.trans ?_
    omega
  next h =>
    rw [if_neg]
    exact fun h' => h ⟨UInt32.le_iff_toNat_le.2 h'.1, UInt32.le_iff_toNat_le.2 h'.2⟩

theorem toNat_digit : ∀ n < 16, (digit n).toNat = if n < 10 then 48 + n else 55 + n := by decide

theorem value?_eq (c : Char) : value? c =
    if 48 ≤ c.toNat ∧ c.toNat ≤ 57 then some (c.toNat - 48)
    else if 65 ≤ c.toNat ∧ c.toNat ≤ 70 then some (c.toNat - 55)
    else if 97 ≤ c.toNat ∧ c.toNat ≤ 102 then some (c.toNat - 87)
    else none := rfl

/-- A character is a digit if its capital is one that numbers are written with. -/
theorem value?_eq_some_iff : value? c = some n ↔ n < 16 ∧ c.toUpper = digit n := by
  constructor
  · intro h
    have hn := value?_lt h
    refine ⟨hn, ?_⟩
    rw [value?_eq] at h
    rw [← Char.toNat_inj, toNat_toUpper, toNat_digit n hn]
    split_ifs at h <;> rw [Option.some_inj] at h <;> split_ifs <;> omega
  · rintro ⟨hn, h⟩
    rw [← Char.toNat_inj, toNat_toUpper, toNat_digit n hn] at h
    rw [value?_eq]
    split_ifs at h ⊢ <;> first | omega | (rw [Option.some_inj]; omega)

theorem readFour?_eq_some_iff_writes : readFour? a b c d = some u ↔ Writes [a, b, c, d] u := by
  constructor
  · intro h
    have hu := readFour?_lt h
    obtain ⟨i, j, k, l, hi, hj, hk, hl, rfl⟩ := readFour?_eq_some_iff.1 h
    rw [value?_eq_some_iff] at hi hj hk hl
    refine ⟨?_, hu⟩
    simp only [List.map_cons, List.map_nil, hi.2, hj.2, hk.2, hl.2, four, List.cons.injEq, and_true]
    refine ⟨?_, ?_, ?_, ?_⟩ <;> congr 1 <;> omega
  · rintro ⟨h, hu⟩
    simp only [List.map_cons, List.map_nil, four, List.cons.injEq, and_true] at h
    obtain ⟨ha, hb, hc, hd⟩ := h
    have hlt (m : Nat) : m % 16 < 16 := Nat.mod_lt m (by decide)
    refine readFour?_eq_some_iff.2 ⟨_, _, _, _, value?_eq_some_iff.2 ⟨hlt _, ha⟩,
      value?_eq_some_iff.2 ⟨hlt _, hb⟩, value?_eq_some_iff.2 ⟨hlt _, hc⟩,
      value?_eq_some_iff.2 ⟨hlt _, hd⟩, ?_⟩
    omega

theorem Writes.length_eq (h : Writes digits u) : digits.length = 4 := by
  rw [← List.length_map Char.toUpper, h.1]
  rfl

theorem exists_readFour?_of_writes (h : Writes digits u) :
    ∃ a b c d, digits = [a, b, c, d] ∧ readFour? a b c d = some u := by
  match digits, h.length_eq with
  | [a, b, c, d], _ => exact ⟨a, b, c, d, rfl, readFour?_eq_some_iff_writes.2 h⟩

theorem Writes.unique (h : Writes digits u) (h' : Writes digits v) : u = v := by
  obtain ⟨a, b, c, d, rfl, hu⟩ := exists_readFour?_of_writes h
  exact Option.some_inj.1 (hu.symm.trans (readFour?_eq_some_iff_writes.2 h'))

end Hex

namespace Literal

/-! ### Tokens and faults -/

/-- The letters that may follow a backslash, each with what it stands for. -/
def letters : List (Char × Char) :=
  [('b', '\x08'), ('t', '\t'), ('n', '\n'), ('f', '\x0c'), ('r', '\r'), ('"', '"'), ('\'', '\''),
    ('\\', '\\'), ('$', '$')]

structure UnitEscape where
  digits : Text
  unit : Nat
  writes : Hex.Writes digits unit

def UnitEscape.spelling (u : UnitEscape) : Text := '\\' :: 'u' :: u.digits

inductive Token
  | plain (c : Char) (hc : c ≠ '\\')
  | letter (letter c : Char) (h : (letter, c) ∈ letters)
  | unit (u : UnitEscape) (hhigh : Utf16.isHigh u.unit = false) (hlow : Utf16.isLow u.unit = false)
  | pair (lead tail : UnitEscape) (hhigh : Utf16.isHigh lead.unit = true)
    (hlow : Utf16.isLow tail.unit = true)

namespace Token

def spelling : Token → Text
  | plain c _ => [c]
  | letter l _ _ => ['\\', l]
  | unit u _ _ => u.spelling
  | pair lead tail _ _ => lead.spelling ++ tail.spelling

def meaning : Token → Char
  | plain c _ => c
  | letter _ c _ => c
  | unit u _ _ => Char.ofNat u.unit
  | pair lead tail _ _ => Utf16.join lead.unit tail.unit

/-- The number of the code point that a token stands for. -/
def codePoint : Token → Nat
  | plain c _ => c.toNat
  | letter _ c _ => c.toNat
  | unit u _ _ => u.unit
  | pair lead tail _ _ => 0x10000 + (lead.unit - 0xD800) * 0x400 + (tail.unit - 0xDC00)

end Token

/-- An escape that is no escape, and how it is reported. -/
inductive Malformed : Text → DecodeError → Prop
  | dangling : Malformed ['\\'] .danglingBackslash
  | unknown {letter : Char} (rest : Text) (hu : letter ≠ 'u') (h : ∀ c, (letter, c) ∉ letters) :
      Malformed ('\\' :: letter :: rest) (.unknownEscape letter)
  | digits (rest : Text) (h : ∀ u, ¬ Hex.Writes (rest.take 4) u) :
      Malformed ('\\' :: 'u' :: rest) (.badUnicodeEscape (rest.take 4))

/-- What stops decoding where a token should begin, and how it is reported. A surrogate on its own
counts only if what follows a high one is not malformed itself. -/
inductive Fault : Text → DecodeError → Prop
  | malformed {rest : Text} {e : DecodeError} (h : Malformed rest e) : Fault rest e
  | malformedBehind {rest : Text} {e : DecodeError} (u : UnitEscape)
      (hhigh : Utf16.isHigh u.unit = true) (h : Malformed rest e) : Fault (u.spelling ++ rest) e
  | low (u : UnitEscape) (rest : Text) (hlow : Utf16.isLow u.unit = true) :
      Fault (u.spelling ++ rest) (.loneSurrogate u.unit)
  | high {rest : Text} (u : UnitEscape) (hhigh : Utf16.isHigh u.unit = true)
      (hwell : ∀ e, ¬ Malformed rest e)
      (hlow : ∀ v : UnitEscape, Utf16.isLow v.unit = true → ¬ v.spelling <+: rest) :
      Fault (u.spelling ++ rest) (.loneSurrogate u.unit)

variable {body rest rest' t : Text} {letter c d : Char} {e : DecodeError}

theorem mem_letters_iff : (letter, c) ∈ letters ↔ meaning? letter = some c := by
  constructor
  · intro h
    simp only [letters, List.mem_cons, Prod.mk.injEq, List.not_mem_nil, or_false] at h
    rcases h with ⟨rfl, rfl⟩ | ⟨rfl, rfl⟩ | ⟨rfl, rfl⟩ | ⟨rfl, rfl⟩ | ⟨rfl, rfl⟩ | ⟨rfl, rfl⟩ |
      ⟨rfl, rfl⟩ | ⟨rfl, rfl⟩ | ⟨rfl, rfl⟩ <;> rfl
  · intro h
    unfold meaning? at h
    split at h <;> cases h <;> decide

theorem ne_u_of_mem_letters (h : (letter, c) ∈ letters) : letter ≠ 'u' :=
  ne_u_of_meaning? (mem_letters_iff.1 h)

theorem eq_of_mem_letters (h : (letter, c) ∈ letters) (h' : (letter, d) ∈ letters) : c = d := by
  rw [mem_letters_iff] at h h'
  exact Option.some_inj.1 (h.symm.trans h')

namespace UnitEscape

variable {u v : UnitEscape}

theorem eq_of_digits_eq (h : u.digits = v.digits) : u = v := by
  have hunit : u.unit = v.unit := u.writes.unique (h ▸ v.writes)
  cases u
  cases v
  rw [mk.injEq]
  exact ⟨h, hunit⟩

/-- Four digits leave no doubt where a unit escape ends. -/
theorem append_inj (h : u.spelling ++ rest = v.spelling ++ rest') : u = v ∧ rest = rest' := by
  have hdigits : u.digits ++ rest = v.digits ++ rest' := (List.cons.inj (List.cons.inj h).2).2
  have hlen : u.digits.length = v.digits.length := u.writes.length_eq.trans v.writes.length_eq.symm
  obtain ⟨hdigits, hrest⟩ := List.append_inj hdigits hlen
  exact ⟨eq_of_digits_eq hdigits, hrest⟩

theorem exists_spelling_eq (u : UnitEscape) :
    ∃ a b c d, u.spelling = ['\\', 'u', a, b, c, d] ∧ Hex.readFour? a b c d = some u.unit := by
  obtain ⟨a, b, c, d, hdigits, h⟩ := Hex.exists_readFour?_of_writes u.writes
  exact ⟨a, b, c, d, by rw [spelling, hdigits], h⟩

theorem decodeFrom_append (u : UnitEscape) (high : Option Nat) (decoded rest : Text) :
    decodeFrom high decoded (u.spelling ++ rest) =
      match high with
      | none =>
        if Utf16.isHigh u.unit then decodeFrom (some u.unit) decoded rest
        else if Utf16.isLow u.unit then .error (.loneSurrogate u.unit)
        else decodeFrom none (Char.ofNat u.unit :: decoded) rest
      | some lead =>
        if Utf16.isLow u.unit then decodeFrom none (Utf16.join lead u.unit :: decoded) rest
        else .error (.loneSurrogate lead) := by
  obtain ⟨a, b, c, d, hspelling, h⟩ := u.exists_spelling_eq
  rw [hspelling]
  cases high <;> simp [decodeFrom, h]

end UnitEscape

/-! ### One token -/

/-- What a body begins with, whether or not decoding can go on behind it. -/
inductive Beginning : Text → Prop
  | nil : Beginning []
  | plain {c : Char} (rest : Text) (hc : c ≠ '\\') : Beginning (c :: rest)
  | letter {letter c : Char} (rest : Text) (h : (letter, c) ∈ letters) :
      Beginning ('\\' :: letter :: rest)
  | unit (u : UnitEscape) (rest : Text) : Beginning (u.spelling ++ rest)
  | malformed {body : Text} {e : DecodeError} (h : Malformed body e) : Beginning body

theorem beginning (body : Text) : Beginning body := by
  cases body with
  | nil => exact .nil
  | cons c rest =>
      by_cases hc : c = '\\'
      · subst hc
        cases rest with
        | nil => exact .malformed .dangling
        | cons letter rest =>
            by_cases hu : letter = 'u'
            · subst hu
              by_cases h : ∃ u, Hex.Writes (rest.take 4) u
              · obtain ⟨u, h⟩ := h
                have hunit := Beginning.unit ⟨rest.take 4, u, h⟩ (rest.drop 4)
                rwa [UnitEscape.spelling, List.cons_append, List.cons_append,
                  List.take_append_drop] at hunit
              · exact .malformed (.digits rest fun u hu => h ⟨u, hu⟩)
            · by_cases h : ∃ c, (letter, c) ∈ letters
              · exact .letter rest h.choose_spec
              · exact .malformed (.unknown rest hu fun c hc => h ⟨c, hc⟩)
      · exact .plain rest hc

theorem Token.spells (token : Token) : Spells token.spelling token.meaning := by
  cases token with
  | plain c hc => exact .plain hc
  | letter letter c h => exact .letter (mem_letters_iff.1 h)
  | unit u hhigh hlow =>
      obtain ⟨a, b, c, d, hspelling, h⟩ := u.exists_spelling_eq
      rw [spelling, hspelling]
      exact .unit h hhigh hlow
  | pair lead tail hhigh hlow =>
      obtain ⟨a, b, c, d, hlead, h⟩ := lead.exists_spelling_eq
      obtain ⟨a', b', c', d', htail, h'⟩ := tail.exists_spelling_eq
      rw [spelling, hlead, htail]
      exact .pair h hhigh h' hlow

/-- Units that are no surrogates, and pairs of them, always number a code point. -/
theorem Token.toNat_meaning (token : Token) : token.meaning.toNat = token.codePoint := by
  cases token with
  | plain c hc => rfl
  | letter letter c h => rfl
  | unit u hhigh hlow => exact Utf16.toNat_ofNat_unit u.writes.2 hhigh hlow
  | pair lead tail hhigh hlow => exact Utf16.toNat_join hhigh hlow

theorem Malformed.decodeFrom_eq (h : Malformed body e) (high : Option Nat) (decoded : Text) :
    decodeFrom high decoded body = .error e := by
  cases h with
  | dangling => simp [decodeFrom]
  | @unknown letter rest hu h =>
      have hnone : meaning? letter = none := Option.eq_none_iff_forall_ne_some.2 fun c hc =>
        h c (mem_letters_iff.2 hc)
      simp [decodeFrom, hu, hnone]
  | digits rest h =>
      -- Only four characters can be digits of a unit.
      rcases rest with _ | ⟨a, _ | ⟨b, _ | ⟨c, _ | ⟨d, rest⟩⟩⟩⟩
      case cons.cons.cons.cons =>
        have hnone : Hex.readFour? a b c d = none :=
          Option.eq_none_iff_forall_ne_some.2 fun u hu =>
            h u (Hex.readFour?_eq_some_iff_writes.1 hu)
        simp [decodeFrom, hnone]
      all_goals simp [decodeFrom]

/-- A high surrogate goes unpaired as soon as what follows is neither its low one nor malformed. -/
theorem decodeFrom_waiting (lead : Nat) (decoded : Text) (hwell : ∀ e, ¬ Malformed rest e)
    (hlow : ∀ v : UnitEscape, Utf16.isLow v.unit = true → ¬ v.spelling <+: rest) :
    decodeFrom (some lead) decoded rest = .error (.loneSurrogate lead) := by
  cases beginning rest with
  | nil => simp [decodeFrom]
  | plain rest hc => simp [decodeFrom, hc]
  | letter rest h => simp [decodeFrom, ne_u_of_mem_letters h, mem_letters_iff.1 h]
  | unit v rest =>
      have hv : ¬ Utf16.isLow v.unit = true := fun hv => hlow v hv (List.prefix_append _ rest)
      rw [v.decodeFrom_append]
      exact if_neg hv
  | malformed h => exact absurd h (hwell _)

theorem Fault.decodeFrom_eq (h : Fault body e) (decoded : Text) :
    decodeFrom none decoded body = .error e := by
  cases h with
  | malformed h => exact h.decodeFrom_eq none decoded
  | malformedBehind u hhigh h =>
      rw [u.decodeFrom_append]
      exact (if_pos hhigh).trans (h.decodeFrom_eq _ decoded)
  | low u rest hlow =>
      have hhigh : ¬ Utf16.isHigh u.unit = true := by
        simp only [Utf16.isHigh, Utf16.isLow, Bool.and_eq_true, decide_eq_true_eq] at hlow ⊢
        omega
      rw [u.decodeFrom_append]
      exact (if_neg hhigh).trans (if_pos hlow)
  | high u hhigh hwell hlow =>
      rw [u.decodeFrom_append]
      exact (if_pos hhigh).trans (decodeFrom_waiting u.unit decoded hwell hlow)

/-- Where a body goes on, it does so with a token or with a fault. -/
theorem token_or_fault (hne : body ≠ []) :
    (∃ (token : Token) (rest : Text), body = token.spelling ++ rest) ∨ ∃ e, Fault body e := by
  cases beginning body with
  | nil => exact absurd rfl hne
  | plain rest hc => exact .inl ⟨.plain _ hc, rest, rfl⟩
  | letter rest h => exact .inl ⟨.letter _ _ h, rest, rfl⟩
  | malformed h => exact .inr ⟨_, .malformed h⟩
  | unit u rest =>
      by_cases hhigh : Utf16.isHigh u.unit = true
      · by_cases hmalformed : ∃ e, Malformed rest e
        · exact .inr ⟨_, .malformedBehind u hhigh hmalformed.choose_spec⟩
        · by_cases hlow : ∃ v : UnitEscape, Utf16.isLow v.unit = true ∧ v.spelling <+: rest
          · obtain ⟨v, hlow, behind, rfl⟩ := hlow
            exact .inl ⟨.pair u v hhigh hlow, behind, (List.append_assoc _ _ _).symm⟩
          · exact .inr ⟨_, .high u hhigh (fun e he => hmalformed ⟨e, he⟩)
              fun v hv hprefix => hlow ⟨v, hv, hprefix⟩⟩
      · by_cases hlow : Utf16.isLow u.unit = true
        · exact .inr ⟨_, .low u rest hlow⟩
        · exact .inl ⟨.unit u (Bool.eq_false_iff.2 hhigh) (Bool.eq_false_iff.2 hlow), rest, rfl⟩

theorem Token.spelling_ne_nil (token : Token) : token.spelling ≠ [] := by
  cases token <;> exact List.cons_ne_nil _ _

/-- No token is the beginning of another. -/
theorem Token.append_inj {token other : Token}
    (h : token.spelling ++ rest = other.spelling ++ rest') : token = other ∧ rest = rest' := by
  cases token with
  | plain c hc =>
      cases other with
      | plain d hd =>
          obtain ⟨rfl, rfl⟩ := List.cons.inj h
          exact ⟨rfl, rfl⟩
      | letter | unit | pair => exact absurd (List.cons.inj h).1 hc
  | letter l c hl =>
      cases other with
      | plain d hd => exact absurd (List.cons.inj h).1.symm hd
      | letter m d hm =>
          obtain ⟨rfl, rfl⟩ := List.cons.inj (List.cons.inj h).2
          obtain rfl := eq_of_mem_letters hl hm
          exact ⟨rfl, rfl⟩
      | unit | pair =>
          exact absurd (List.cons.inj (List.cons.inj h).2).1 (ne_u_of_mem_letters hl)
  | unit u hhigh hlow =>
      cases other with
      | plain d hd => exact absurd (List.cons.inj h).1.symm hd
      | letter m d hm =>
          exact absurd (List.cons.inj (List.cons.inj h).2).1.symm (ne_u_of_mem_letters hm)
      | unit v =>
          obtain ⟨rfl, rfl⟩ := UnitEscape.append_inj h
          exact ⟨rfl, rfl⟩
      | pair lead tail hlead =>
          simp only [spelling, List.append_assoc] at h
          obtain ⟨rfl, -⟩ := UnitEscape.append_inj h
          rw [hlead] at hhigh
          cases hhigh
  | pair lead tail hlead htail =>
      simp only [spelling, List.append_assoc] at h
      cases other with
      | plain d hd => exact absurd (List.cons.inj h).1.symm hd
      | letter m d hm =>
          exact absurd (List.cons.inj (List.cons.inj h).2).1.symm (ne_u_of_mem_letters hm)
      | unit v hhigh =>
          obtain ⟨rfl, -⟩ := UnitEscape.append_inj h
          rw [hlead] at hhigh
          cases hhigh
      | pair lead' tail' =>
          simp only [List.append_assoc] at h
          obtain ⟨rfl, htails⟩ := UnitEscape.append_inj h
          obtain ⟨rfl, rfl⟩ := UnitEscape.append_inj htails
          exact ⟨rfl, rfl⟩

/-! ### Whole bodies -/

theorem decodeFrom_tokens (tokens : List Token) (decoded rest : Text) :
    decodeFrom none decoded (tokens.flatMap Token.spelling ++ rest) =
      decodeFrom none ((tokens.map Token.meaning).reverse ++ decoded) rest := by
  induction tokens generalizing decoded with
  | nil => rfl
  | cons token tokens ih =>
      rw [List.flatMap_cons, List.append_assoc, decodeFrom_spelling token.spells, ih, List.map_cons,
        List.reverse_cons, List.append_assoc, List.singleton_append]

theorem decode_tokens (tokens : List Token) :
    decode (tokens.flatMap Token.spelling) = .ok (tokens.map Token.meaning) := by
  have h := decodeFrom_tokens tokens [] []
  rw [List.append_nil, List.append_nil] at h
  rw [decode, h, decodeFrom, List.reverse_reverse]

theorem decode_tokens_append (tokens : List Token) (h : Fault rest e) :
    decode (tokens.flatMap Token.spelling ++ rest) = .error e := by
  rw [decode, decodeFrom_tokens]
  exact h.decodeFrom_eq _

/-- A body is made of tokens up to its end or to its first fault. -/
theorem exists_tokens (body : Text) :
    ∃ (tokens : List Token) (rest : Text), body = tokens.flatMap Token.spelling ++ rest ∧
      (rest = [] ∨ ∃ e, Fault rest e) := by
  -- On the length: a token is taken off the front as a whole.
  induction hn : body.length using Nat.strong_induction_on generalizing body with
  | _ n ih =>
      by_cases hne : body = []
      · exact ⟨[], [], hne, .inl rfl⟩
      · rcases token_or_fault hne with ⟨token, rest, rfl⟩ | hfault
        · have hlt : rest.length < n := by
            have hpos := List.length_pos_iff.2 token.spelling_ne_nil
            rw [List.length_append] at hn
            omega
          obtain ⟨tokens, behind, rfl, hbehind⟩ := ih _ hlt rest rfl
          exact ⟨token :: tokens, behind, by rw [List.flatMap_cons, List.append_assoc], hbehind⟩
        · exact ⟨[], body, rfl, .inr hfault⟩

theorem decode_eq_ok_iff_tokens : decode body = .ok t ↔
    ∃ tokens : List Token, tokens.flatMap Token.spelling = body ∧ tokens.map Token.meaning = t := by
  constructor
  · intro h
    obtain ⟨tokens, rest, rfl, rfl | ⟨e, hfault⟩⟩ := exists_tokens body
    · rw [List.append_nil, decode_tokens] at h
      exact ⟨tokens, (List.append_nil _).symm, Except.ok.inj h⟩
    · rw [decode_tokens_append tokens hfault] at h
      cases h
  · rintro ⟨tokens, rfl, rfl⟩
    exact decode_tokens tokens

theorem decode_eq_error_iff : decode body = .error e ↔
    ∃ (tokens : List Token) (rest : Text), body = tokens.flatMap Token.spelling ++ rest ∧
      Fault rest e := by
  constructor
  · intro h
    obtain ⟨tokens, rest, rfl, rfl | ⟨e', hfault⟩⟩ := exists_tokens body
    · rw [List.append_nil, decode_tokens] at h
      cases h
    · have h' := decode_tokens_append tokens hfault
      obtain rfl := Except.error.inj (h.symm.trans h')
      exact ⟨tokens, rest, rfl, hfault⟩
  · rintro ⟨tokens, rest, rfl, hfault⟩
    exact decode_tokens_append tokens hfault

theorem flatMap_spelling_injective :
    Function.Injective fun tokens : List Token => tokens.flatMap Token.spelling := by
  intro tokens others h
  induction tokens generalizing others with
  | nil =>
      cases others with
      | nil => rfl
      | cons other others =>
          have hnil := List.append_eq_nil_iff.1 h.symm
          exact absurd hnil.1 other.spelling_ne_nil
  | cons token tokens ih =>
      cases others with
      | nil =>
          have hnil := List.append_eq_nil_iff.1 h
          exact absurd hnil.1 token.spelling_ne_nil
      | cons other others =>
          obtain ⟨rfl, hrest⟩ := Token.append_inj h
          rw [ih hrest]

/-- Decoding accepts the bodies that are made of tokens, gives what the tokens stand for, and
reports the fault behind the last token otherwise. -/
theorem decode_exact (body : Text) :
    (∀ t, decode body = .ok t ↔
      ∃ tokens : List Token, tokens.flatMap Token.spelling = body ∧
        tokens.map Token.meaning = t) ∧
      (∀ tokens others : List Token, tokens.flatMap Token.spelling = body →
        others.flatMap Token.spelling = body → tokens = others) ∧
      (∀ e, decode body = .error e ↔
        ∃ (tokens : List Token) (rest : Text), body = tokens.flatMap Token.spelling ++ rest ∧
          Fault rest e) ∧
      ∀ token : Token, token.meaning.toNat = token.codePoint :=
  ⟨fun _ => decode_eq_ok_iff_tokens,
    fun _ _ h h' => flatMap_spelling_injective (h.trans h'.symm),
    fun _ => decode_eq_error_iff, Token.toNat_meaning⟩

/-- One token of each kind, digits in either case. -/
def sampleTokens : List Token :=
  [.plain '$' (by decide), .letter 'n' '\n' (by decide),
    .unit ⟨"00e9".toList, 0xE9, by decide, by decide⟩ rfl rfl,
    .pair ⟨"D83D".toList, 0xD83D, by decide, by decide⟩
      ⟨"dE00".toList, 0xDE00, by decide, by decide⟩ rfl rfl]

def sampleBody : Text := "$\\n\\u00e9\\uD83D\\udE00".toList

theorem decode_exact_sample :
    decode sampleBody = .ok ['$', '\n', 'é', '😀'] ∧
      (∀ others : List Token, others.flatMap Token.spelling = sampleBody → others = sampleTokens) ∧
      ∃ (tokens : List Token) (rest : Text),
        sampleBody.dropLast = tokens.flatMap Token.spelling ++ rest ∧
          Fault rest (.badUnicodeEscape ['d', 'E', '0']) := by
  have hbody : sampleTokens.flatMap Token.spelling = sampleBody := by decide
  have hcut : decode sampleBody.dropLast = .error (.badUnicodeEscape ['d', 'E', '0']) := by
    decide +kernel
  exact ⟨((decode_exact sampleBody).1 _).2 ⟨sampleTokens, hbody, by decide +kernel⟩,
    fun others h => (decode_exact sampleBody).2.1 others sampleTokens h hbody,
    ((decode_exact sampleBody.dropLast).2.2.1 _).1 hcut⟩

end Literal

end LiteralPack
