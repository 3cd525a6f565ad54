import LiteralPack.Proofs.Foretelling
import LiteralPack.Proofs.Tokens

/-!
Where the literals of a set meet. A text is escaped code point by code point and a cut never parts
one, so the bodies of an encoded set join to the escape of the whole text, however it was cut. Each
body decodes on its own, so it ends where a token ends: no escape and no surrogate pair reaches from
one literal into the next.
-/

namespace LiteralPack

/-- What is written item by item is written alike in groups. -/
theorem flatMap_flatten {α β : Type} (f : α → List β) (groups : List (List α)) :
    groups.flatten.flatMap f = (groups.map (List.flatMap f)).flatten := by
  rw [← List.flatMap_id, List.flatMap_assoc, List.flatMap_def]
  rfl

namespace Literal

variable {bodies texts : List Text} {tokens : List Token}

/-- Tokens that fall into groups, one for each of several bodies and for the text it stands for. -/
def Token.GroupInto (bodies texts : List Text) (tokens : List Token) : Prop :=
  ∃ groups : List (List Token), groups.flatten = tokens ∧
    groups.map (List.flatMap Token.spelling) = bodies ∧ groups.map (List.map Token.meaning) = texts

theorem exists_groups (h : List.Forall₂ (fun body t => decode body = .ok t) bodies texts) :
    ∃ tokens, Token.GroupInto bodies texts tokens := by
  induction h with
  | nil => exact ⟨[], [], rfl, rfl, rfl⟩
  | cons hbody _ ih =>
      obtain ⟨group, rfl, rfl⟩ := decode_eq_ok_iff_tokens.1 hbody
      obtain ⟨_, groups, -, rfl, rfl⟩ := ih
      exact ⟨_, group :: groups, rfl, rfl, rfl⟩

/-- A body joined from bodies that decode has no other tokens than theirs. -/
theorem groupInto_of_flatten (h : List.Forall₂ (fun body t => decode body = .ok t) bodies texts)
    (htokens : tokens.flatMap Token.spelling = bodies.flatten) :
    Token.GroupInto bodies texts tokens := by
  obtain ⟨others, groups, hflatten, hbodies, htexts⟩ := exists_groups h
  have hsame : others.flatMap Token.spelling = tokens.flatMap Token.spelling := by
    rw [htokens, ← hbodies, ← hflatten, flatMap_flatten]
  obtain rfl := flatMap_spelling_injective hsame
  exact ⟨groups, hflatten, hbodies, htexts⟩

end Literal

theorem Limits.sum_byteLen_of_cut {limits : Limits} {t : Text} {fs : List Fragment}
    (h : limits.cut t = .ok fs) : (fs.map Fragment.byteLen).sum = t.utf8Size := by
  have hsizes : fs.map Fragment.byteLen = (fs.map Fragment.text).map Text.utf8Size := by
    rw [List.map_map]
    exact List.map_congr_left fun f hf => (measured_of_cut h f hf).byteLen_eq
  have hsum := Measure.utf8.size_flatten (fs.map Fragment.text)
  rw [flatten_of_cut h] at hsum
  rw [hsizes]
  exact hsum.symm

namespace Encoder

/-- A literal stands for a fragment, under the sizes of the text that its body decodes to. -/
structure StandsFor (l : Literal) (f : Fragment) : Prop where
  index_eq : l.index = f.index
  decode_eq : Literal.decode l.body = .ok f.text
  charLen_eq : l.charLen = f.text.length
  byteLen_eq : l.byteLen = f.text.utf8Size

theorem standsFor_of_measured (target : Target) {f : Fragment} (h : f.Measured) :
    StandsFor (f.literal target) f :=
  ⟨rfl, Literal.decode_escape target f.text, h.charLen_eq, h.byteLen_eq⟩

/-- Splitting does not change what is written. The bodies of a set join to the escape of the whole
text, each of them decodes to its fragment, no token of the joined body lies in two of them, and the
recorded sizes are those of the decoded texts and add up to those of the whole. -/
theorem encode_seamless (e : Encoder) (accessor : String) (t : Text) {set : Accessors}
    (h : e.encode accessor t = .ok set) :
    let bodies := set.literals.map Literal.body
    ∃ fs, e.limits.cut t = .ok fs ∧
      bodies.flatten = Literal.escape e.target t ∧
      Literal.decode bodies.flatten = .ok t ∧
      List.Forall₂ StandsFor set.literals fs ∧
      (∀ tokens : List Literal.Token, tokens.flatMap Literal.Token.spelling = bodies.flatten →
        Literal.Token.GroupInto bodies (fs.map Fragment.text) tokens) ∧
      (set.literals.map Literal.charLen).sum = t.length ∧
      (set.literals.map Literal.byteLen).sum = t.utf8Size := by
  obtain ⟨fs, hcut, rfl⟩ := exists_cut_of_encode h
  have hmeasured := Limits.measured_of_cut hcut
  have hbodies : (fs.map (Fragment.literal e.target)).map Literal.body =
      (fs.map Fragment.text).map (Literal.escape e.target) := by
    rw [List.map_map, List.map_map]
    rfl
  have hjoined : ((fs.map (Fragment.literal e.target)).map Literal.body).flatten =
      Literal.escape e.target t := by
    rw [hbodies, ← Limits.flatten_of_cut hcut]
    exact (flatMap_flatten _ _).symm
  have hdecoded : List.Forall₂ (fun body s => Literal.decode body = .ok s)
      ((fs.map Fragment.text).map (Literal.escape e.target)) (fs.map Fragment.text) := by
    rw [List.forall₂_map_left_iff, List.forall₂_same]
    exact fun s _ => Literal.decode_escape e.target s
  simp only [assembled, Accessors.literals_assemble]
  refine ⟨fs, hcut, hjoined, ?decodes, ?stands, ?tokens, ?chars, ?bytes⟩
  case decodes => rw [hjoined, Literal.decode_escape]
  case stands =>
    rw [List.forall₂_map_left_iff, List.forall₂_same]
    exact fun f hf => standsFor_of_measured e.target (hmeasured f hf)
  case tokens =>
    rw [hbodies]
    exact fun tokens htokens => Literal.groupInto_of_flatten hdecoded htokens
  case chars =>
    rw [List.map_map]
    exact Limits.sum_charLen_of_cut hcut
  case bytes =>
    rw [List.map_map]
    exact Limits.sum_byteLen_of_cut hcut

theorem encode_seamless_twoParts :
    tightKotlin.encode "body" ['$', '\\', 'a', '😀'] = .ok twoParts ∧
      let bodies := twoParts.literals.map Literal.body
      ∃ fs, Limits.tight.cut ['$', '\\', 'a', '😀'] = .ok fs ∧
        bodies.flatten = Literal.escape .kotlin ['$', '\\', 'a', '😀'] ∧
        Literal.decode bodies.flatten = .ok ['$', '\\', 'a', '😀'] ∧
        List.Forall₂ StandsFor twoParts.literals fs ∧
        (∀ tokens : List Literal.Token, tokens.flatMap Literal.Token.spelling = bodies.flatten →
          Literal.Token.GroupInto bodies (fs.map Fragment.text) tokens) ∧
        (twoParts.literals.map Literal.charLen).sum = 4 ∧
        (twoParts.literals.map Literal.byteLen).sum = Text.utf8Size ['$', '\\', 'a', '😀'] :=
  ⟨by decide +kernel, tightKotlin.encode_seamless "body" _ (by decide +kernel)⟩

end Encoder

end LiteralPack
