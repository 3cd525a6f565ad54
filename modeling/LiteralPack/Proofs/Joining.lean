import LiteralPack.Proofs.Blame
import LiteralPack.Proofs.Tokens

/-!
Bodies joined to one. A body that decodes ends where a token ends, with no surrogate waiting, so
what is behind it is read as if it stood alone. The verifier decodes a set literal by literal; as
far as it comes, the joined literals give the same.
-/

namespace LiteralPack

namespace Literal

variable {a x : Text} {bodies : List Text}

theorem decode_append (h : decode a = .ok x) (b : Text) :
    decode (a ++ b) = (decode b).map (x ++ ·) := by
  obtain ⟨tokens, rfl, rfl⟩ := decode_eq_ok_iff_tokens.1 h
  obtain ⟨behind, rest, rfl, rfl | ⟨e, hfault⟩⟩ := exists_tokens b
  · rw [List.append_nil, ← List.flatMap_append, decode_tokens, decode_tokens, List.map_append]
    rfl
  · rw [← List.append_assoc, ← List.flatMap_append, decode_tokens_append _ hfault,
      decode_tokens_append _ hfault]
    rfl

/-- The bodies that decode are those that any other body can follow. -/
theorem decode_eq_ok_iff_append :
    decode a = .ok x ↔ ∀ b, decode (a ++ b) = (decode b).map (x ++ ·) := by
  refine ⟨decode_append, fun h => ?_⟩
  have hnil := h []
  rw [List.append_nil, decode, decode, decodeFrom] at hnil
  rw [decode, hnil]
  exact congrArg Except.ok (List.append_nil x)

/-- Bodies are decoded one by one or all at once, if those before the last decode. -/
theorem decode_flatten_concat (h : ∀ body ∈ bodies, ∃ t, decode body = .ok t) (last : Text) :
    decode (bodies ++ [last]).flatten = ((bodies ++ [last]).mapM decode).map List.flatten := by
  induction bodies with
  | nil =>
      rw [List.nil_append, List.mapM_cons, List.mapM_nil, List.flatten_cons, List.flatten_nil,
        List.append_nil]
      cases decode last with
      | error e => rfl
      | ok t => exact congrArg Except.ok (List.append_nil t).symm
  | cons body bodies ih =>
      obtain ⟨⟨t, hbody⟩, h⟩ := List.forall_mem_cons.1 h
      rw [List.cons_append, List.flatten_cons, decode_append hbody, ih h, List.mapM_cons, hbody]
      cases (bodies ++ [last]).mapM decode <;> rfl

/-- The body that literals join to. -/
def joined (literals : List Literal) : Text := (literals.map Literal.body).flatten

theorem joined_append (literals others : List Literal) :
    joined (literals ++ others) = joined literals ++ joined others := by
  rw [joined, List.map_append, List.flatten_append]
  rfl

end Literal

namespace Verify

variable {limits : Limits} {source : Text} {set : Accessors} {literals : List Literal}
  {texts : List Text} {position : Nat}

theorem Sound.decode_joined_append (h : Sound limits position literals texts) (b : Text) :
    Literal.decode (Literal.joined literals ++ b) =
      (Literal.decode b).map (texts.flatten ++ ·) := by
  induction h with
  | nil => exact (congrFun Except.map_id (Literal.decode b)).symm
  | @cons position l t literals texts head _ ih =>
      have hjoined : Literal.joined (l :: literals) ++ b =
          l.body ++ (Literal.joined literals ++ b) := List.append_assoc _ _ _
      rw [hjoined, Literal.decode_append head.decode_eq, ih, List.flatten_cons]
      cases Literal.decode b with
      | error e => rfl
      | ok y => exact congrArg Except.ok (List.append_assoc _ _ _).symm

theorem Sound.decode_joined (h : Sound limits position literals texts) :
    Literal.decode (Literal.joined literals) = .ok texts.flatten := by
  have hend := h.decode_joined_append []
  rw [List.append_nil] at hend
  rw [hend]
  exact congrArg Except.ok (List.append_nil _)

/-- The literal that is blamed for its escapes is the one at which the joined literals fail. -/
theorem decode_joined_take {cause : Literal.DecodeError}
    (h : decodedFrom limits 0 [] literals = .error (.undecodable position cause)) :
    Literal.decode (Literal.joined (literals.take (position + 1))) = .error cause := by
  obtain ⟨lead, l, rest, texts, rfl, hlead, hl⟩ := faulty_of_decodedFrom h
  cases hl with
  | undecodable _ hl =>
      have htake : (lead ++ l :: rest).take (lead.length + 1) = lead ++ [l] :=
        List.take_length_add_append 1
      have hlast : Literal.joined [l] = l.body := List.append_nil l.body
      rw [htake, Literal.joined_append, hlast, hlead.decode_joined_append, hl]
      rfl

theorem Accepted.sound (h : Accepted limits source set texts) :
    Sound limits 0 set.literals texts := by
  apply sound_of_decodedFrom
  rw [decodedFrom_eq_ok_iff, ← List.range_eq_range']
  exact ⟨texts, rfl, h.numbered, h.decoded, h.within⟩

theorem decode_joined_of_accessors {report : Report}
    (h : accessors limits source set = .ok report) :
    Literal.decode (Literal.joined set.literals) = .ok source := by
  obtain ⟨texts, haccepted, -⟩ := accessors_eq_ok_iff.1 h
  rw [haccepted.sound.decode_joined, haccepted.flatten_eq]

theorem exists_decode_joined_of_differs {offset : Nat}
    (h : accessors limits source set = .error (.differs offset)) :
    ∃ t p, Literal.decode (Literal.joined set.literals) = .ok t ∧ t ≠ source ∧
      LongestCommonPrefix p t source ∧ offset = p.length := by
  cases accessors_eq_error_iff.1 h with
  | faulty _ _ _ hfaulty => cases hfaulty
  | differs _ hsound hne hp => exact ⟨_, _, hsound.decode_joined, hne, hp, rfl⟩

end Verify

namespace Literal

/-- Decoding is compositional where a body decodes, and nowhere else. So what the verifier decodes
literal by literal, compares and blames is what the joined literals decode to, or fail with. -/
theorem decode_compositional (limits : Limits) (source : Text) (set : Accessors) :
    (∀ a x, decode a = .ok x ↔ ∀ b, decode (a ++ b) = (decode b).map (x ++ ·)) ∧
      (∀ (bodies : List Text) (last : Text), (∀ body ∈ bodies, ∃ t, decode body = .ok t) →
        decode (bodies ++ [last]).flatten = ((bodies ++ [last]).mapM decode).map List.flatten) ∧
      (∀ texts, Verify.decodedFrom limits 0 [] set.literals = .ok texts →
        decode (joined set.literals) = .ok texts.flatten) ∧
      (∀ position cause,
        Verify.decodedFrom limits 0 [] set.literals = .error (.undecodable position cause) →
        decode (joined (set.literals.take (position + 1))) = .error cause) ∧
      (∀ report, Verify.accessors limits source set = .ok report →
        decode (joined set.literals) = .ok source) ∧
      ∀ offset, Verify.accessors limits source set = .error (.differs offset) →
        ∃ t p, decode (joined set.literals) = .ok t ∧ t ≠ source ∧
          Verify.LongestCommonPrefix p t source ∧ offset = p.length :=
  ⟨fun _ _ => decode_eq_ok_iff_append, fun _ last h => decode_flatten_concat h last,
    fun _ h => (Verify.sound_of_decodedFrom h).decode_joined,
    fun _ _ h => Verify.decode_joined_take h, fun _ h => Verify.decode_joined_of_accessors h,
    fun _ h => Verify.exists_decode_joined_of_differs h⟩

/-- The second part breaks off within a unit escape. -/
def brokenOff : Accessors :=
  .chunked "body"
    [⟨"body0", ⟨0, "\\uD83D\\uDE00".toList, 1, 4⟩⟩, ⟨"body1", ⟨1, "a\\u00".toList, 1, 1⟩⟩]

theorem decode_compositional_brokenOff :
    decode "\\uD83D\\uDE00".toList = .ok ['😀'] ∧
      decode ("\\uD83D\\uDE00".toList ++ "a\\u00".toList) = .error (.badUnicodeEscape ['0', '0']) ∧
      Verify.decodedFrom Limits.classFile 0 [] brokenOff.literals =
        .error (.undecodable 1 (.badUnicodeEscape ['0', '0'])) ∧
      decode (joined (brokenOff.literals.take 2)) = .error (.badUnicodeEscape ['0', '0']) := by
  have hfirst : decode "\\uD83D\\uDE00".toList = .ok ['😀'] := by decide +kernel
  have hsecond : decode "a\\u00".toList = .error (.badUnicodeEscape ['0', '0']) := by
    decide +kernel
  have hloop : Verify.decodedFrom Limits.classFile 0 [] brokenOff.literals =
      .error (.undecodable 1 (.badUnicodeEscape ['0', '0'])) := by decide +kernel
  obtain ⟨happend, -, -, htake, -⟩ := decode_compositional Limits.classFile [] brokenOff
  refine ⟨hfirst, ?_, hloop, htake 1 _ hloop⟩
  rw [(happend _ _).1 hfirst, hsecond]
  rfl

/-- A surrogate pair can be broken up, but the parts do not decode. -/
example : decode "\\uD83D\\uDE00".toList = .ok ['😀'] ∧
    decode "\\uD83D".toList = .error (.loneSurrogate 0xD83D) ∧
    decode "\\uDE00".toList = .error (.loneSurrogate 0xDE00) := by decide +kernel

end Literal

end LiteralPack
