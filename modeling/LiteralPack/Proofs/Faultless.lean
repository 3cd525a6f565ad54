import LiteralPack.Cutter
import LiteralPack.Proofs.Agreement
import LiteralPack.Proofs.ClassFile
import LiteralPack.Proofs.Foretelling

/-!
The cut on counters runs without a fault, whatever the text and the limits. The counters of a piece
are read off the pieces before it, so that what a machine still has to do is a cut of the rest; each
step keeps to this and brings the machine nearer to its end. The numbers stay small, since no
measure more than doubles a text.
-/

namespace LiteralPack

theorem Measure.width_le_two_mul (m : Measure) (c : Char) : m.width c ≤ 2 * c.utf8Size := by
  have hutf8 : Measure.utf8.width c = c.utf8Size := rfl
  have hpos := c.utf8Size_pos
  cases m with
  | utf8 => omega
  | modifiedUtf8 =>
      have hwidth := width_modifiedUtf8_eq_utf8 c
      cases hc : Utf16.isSupplementary c with
      | true =>
          have hfour := width_utf8_of_isSupplementary hc
          rw [hc, if_pos rfl] at hwidth
          split at hwidth <;> omega
      | false =>
          rw [hc, if_neg Bool.false_ne_true] at hwidth
          split at hwidth <;> omega

theorem Measure.size_le_two_mul (m : Measure) (t : Text) : m.size t ≤ 2 * t.utf8Size := by
  induction t with
  | nil => exact Nat.zero_le _
  | cons c t ih =>
      have hc := m.width_le_two_mul c
      rw [size_cons, Text.utf8Size_cons]
      omega

theorem Text.length_le_utf8Size (t : Text) : t.length ≤ t.utf8Size :=
  Measure.utf8.length_le_size t

/-- The length of an encoding is the sum of the widths of its code points. -/
theorem Text.utf8ByteSize_ofList (t : Text) : (String.ofList t).utf8ByteSize = t.utf8Size := by
  rw [← size_utf8Encode, ← String.toByteArray_ofList]
  rfl

theorem Fragment.layOut_concat (texts : List Text) (t : Text) :
    layOut (texts ++ [t]) = layOut texts ++ [behind texts t] := by
  rw [layOut_eq_layBehind, layBehind_append, ← layOut_eq_layBehind]
  rfl

namespace Limits

variable {limits : Limits} {t piece rest : Text} {fs : List Fragment}

theorem audit_of_cut (h : limits.cut t = .ok fs) : Audit.fragments limits t fs = .ok () :=
  (Verify.fragments_eq_ok_iff_audit (isSlice_of_cut h)).1 (verify_of_cut h)

/-- Nothing has no size, so a piece that is too heavy is not empty. -/
theorem exists_concat_of_lt_size (h : limits.maxBytes < limits.size piece) :
    ∃ shorter c, piece = shorter ++ [c] := by
  obtain rfl | hconcat := List.eq_nil_or_concat' piece
  · exact absurd h (Nat.not_lt_zero _)
  · exact hconcat

theorem pieces_append (offset : Nat) (made : List Text) (hne : piece ≠ [])
    (hlongest : limits.longest (piece ++ rest) = piece) :
    limits.pieces offset made (piece ++ rest) =
      limits.pieces (offset + piece.length) (piece :: made) rest := by
  obtain ⟨c, piece, rfl⟩ := List.exists_cons_of_ne_nil hne
  rw [List.cons_append] at hlongest ⊢
  rw [pieces, hlongest]
  simp only [List.drop_left, List.length_cons]

theorem pieces_eq_error (offset : Nat) (made : List Text) {c : Char}
    (hlongest : limits.longest (c :: rest) = []) :
    limits.pieces offset made (c :: rest) =
      .error ⟨offset, c, limits.width c, limits.maxBytes⟩ := by
  rw [pieces, hlongest]

end Limits

namespace Cutter

variable {m : Cutter} {texts : List Text} {piece rest : Text} {s s' : State} {n : Nat}

/-! ### Operations that do not fault -/

/-- A text takes up less than half of what the numbers can count. -/
def Roomy (m : Cutter) : Prop := 2 * m.text.utf8Size < m.word

theorem difference_add_right (a b : Nat) : difference (a + b) b = .ok a := by
  rw [difference, if_pos (Nat.le_add_left b a), Nat.add_sub_cancel]

theorem difference_add_left (a b : Nat) : difference (a + b) a = .ok b := by
  rw [difference, if_pos (Nat.le_add_right a b), Nat.add_sub_cancel_left]

theorem quotient_of_pos (a : Nat) {b : Nat} (h : 0 < b) : quotient a b = .ok (a / b) :=
  if_neg (Nat.ne_of_gt h)

theorem fit_of_lt (h : n < m.word) : m.fit n = .ok n := if_pos h

theorem Roomy.fit (h : m.Roomy) (hn : n ≤ m.text.utf8Size) : m.fit n = .ok n := by
  rw [Roomy] at h
  exact fit_of_lt (by omega)

theorem slice_of_eq {before behind : Text} (h : m.text = before ++ (piece ++ behind)) :
    m.slice before.utf8Size (before.utf8Size + piece.utf8Size) = .ok piece := by
  rw [slice, Text.slice?_eq_some_iff.2 ⟨before, behind, h, rfl, rfl⟩]

theorem rest_of_eq {before : Text} (h : m.text = before ++ rest) :
    m.rest before.utf8Size = .ok rest := by
  have hsize : m.text.utf8Size = before.utf8Size + rest.utf8Size := by
    rw [h, Text.utf8Size_append]
  have htext : m.text = before ++ (rest ++ []) := by rw [h, List.append_nil]
  rw [Cutter.rest, hsize]
  exact slice_of_eq htext

theorem Roomy.sizeOf (h : m.Roomy) (hpiece : piece <:+: m.text) :
    m.sizeOf piece = .ok (m.limits.size piece) := by
  have hle : piece.utf8Size ≤ m.text.utf8Size := Measure.utf8.size_le_of_infix hpiece
  have htwo : m.limits.size piece ≤ 2 * piece.utf8Size :=
    m.limits.measure.size_le_two_mul piece
  rw [Roomy] at h
  unfold Cutter.sizeOf
  split
  · rename_i hmeasure
    rw [Text.utf8ByteSize_ofList, Limits.size, hmeasure]
    rfl
  · exact fit_of_lt (by omega)

/-! ### What the counters say -/

/-- The counters of a piece that comes behind others. -/
def Attempt.behind (limits : Limits) (texts : List Text) (piece : Text) : Attempt where
  start := texts.flatten.length
  startByte := Text.utf8Size texts.flatten
  stop := texts.flatten.length + piece.length
  stopByte := Text.utf8Size texts.flatten + piece.utf8Size
  size := limits.size piece

/-- Where the next piece is proposed when others have been kept. -/
def State.afterwards (texts : List Text) : State :=
  .outer texts.flatten.length (Text.utf8Size texts.flatten) (Fragment.layOut texts)

/-- The pieces kept so far begin the text, and what is left is still to be cut. -/
structure Cuts (m : Cutter) (texts : List Text) (rest : Text) : Prop where
  text_eq : m.text = texts.flatten ++ rest
  cut_eq : m.limits.cut m.text =
    (m.limits.pieces texts.flatten.length texts.reverse rest).map Fragment.layOut

/-- A piece is tried that is as long as its first proposal, or whose next code point was given back
for good reason. -/
structure Tries (m : Cutter) (texts : List Text) (piece rest : Text) : Prop where
  cuts : m.Cuts texts (piece ++ rest)
  ne_nil : piece ++ rest ≠ []
  length_le : piece.length ≤ m.limits.maxLength
  full : ∀ c, rest.head? = some c → m.limits.admits (piece ++ [c]) = false

/-- What holds of a machine in each state. -/
inductive Invariant (m : Cutter) : State → Prop
  | entry : Invariant m .entry
  | outer {texts : List Text} {rest : Text} (h : m.Cuts texts rest) :
      Invariant m (.afterwards texts)
  | trying {texts : List Text} {piece rest : Text} (h : m.Tries texts piece rest) :
      Invariant m (.trying (.behind m.limits texts piece) (Fragment.layOut texts))
  | settled {texts : List Text} {piece rest : Text} (h : m.Tries texts piece rest)
      (hfits : m.limits.size piece ≤ m.limits.maxBytes) :
      Invariant m (.settled (.behind m.limits texts piece) (Fragment.layOut texts))
  | done : Invariant m (.done (m.limits.cut m.text))

/-- The steps that a machine has left, at most: code points can be given back from every piece, and
no piece is kept that does not take one. -/
def rank (m : Cutter) : State → Nat
  | .entry => m.text.length * (m.text.length + 3) + 2
  | .outer start _ _ => (m.text.length - start) * (m.text.length + 3) + 1
  | .trying a _ => (m.text.length - (a.start + 1)) * (m.text.length + 3) + (a.stop - a.start) + 3
  | .settled a _ => (m.text.length - (a.start + 1)) * (m.text.length + 3) + 2
  | .done _ => 0

/-- A step without a fault, to a state that is nearer to the end. -/
def Proceeds (m : Cutter) (s : State) : Prop :=
  ∃ s', m.Next s s' ∧ m.Invariant s' ∧ m.rank s' < m.rank s

/-! ### Steps -/

theorem proceeds_entry (hroom : m.Roomy) : m.Proceeds .entry := by
  by_cases hnil : m.text.length = 0
  · have hcut : m.limits.cut m.text = .ok [⟨0, 0, 0, 0, 0, []⟩] := by
      rw [List.eq_nil_of_length_eq_zero hnil]
      rfl
    refine ⟨_, ?_, .done, Nat.succ_pos _⟩
    rw [Next, step, enter, if_pos hnil, hcut]
  · have hshares : m.text.length / m.limits.maxLength + 1 < m.word := by
      have hle := Nat.div_le_self m.text.length m.limits.maxLength
      have hlength := m.text.length_le_utf8Size
      rw [Roomy] at hroom
      omega
    have hcuts : m.Cuts [] m.text := by
      refine ⟨rfl, ?_⟩
      rw [Limits.cut, if_neg (by simpa using hnil)]
      rfl
    refine ⟨_, ?_, .outer hcuts, ?_⟩
    · rw [Next, step, enter, if_neg hnil, quotient_of_pos _ m.limits.maxLength_pos, ok_bind,
        fit_of_lt hshares]
      rfl
    · simp only [rank, State.afterwards, List.flatten_nil, List.length_nil, Nat.sub_zero]
      omega

namespace Cuts

theorem length_eq (h : m.Cuts texts rest) :
    m.text.length = texts.flatten.length + rest.length := by
  rw [h.text_eq, List.length_append]

theorem utf8Size_eq (h : m.Cuts texts rest) :
    m.text.utf8Size = Text.utf8Size texts.flatten + rest.utf8Size := by
  rw [h.text_eq, Text.utf8Size_append]

/-- The longest piece that the length cap allows is proposed. -/
theorem propose_eq (hroom : m.Roomy) (h : m.Cuts texts (piece ++ rest))
    (hlen : piece.length = min m.limits.maxLength (piece ++ rest).length) (made : List Fragment) :
    m.propose texts.flatten.length (Text.utf8Size texts.flatten) made =
      .ok (.trying (.behind m.limits texts piece) made) := by
  have hlength := h.length_eq
  have hbytes := h.utf8Size_eq
  have htext := m.text.length_le_utf8Size
  have hpiece : piece <:+: m.text := ⟨texts.flatten, rest, by rw [h.text_eq, List.append_assoc]⟩
  simp only [List.length_append, Text.utf8Size_append] at hlength hbytes
  rw [propose, rest_of_eq h.text_eq, ok_bind, h.length_eq, difference_add_left, ok_bind]
  simp only [← hlen, Text.byteOffset_eq, List.take_left]
  rw [hroom.fit (by omega), ok_bind, hroom.fit (by omega), ok_bind, slice_of_eq h.text_eq,
    ok_bind, hroom.sizeOf hpiece]
  rfl

theorem tries (h : m.Cuts texts (piece ++ rest)) (hne : piece ++ rest ≠ [])
    (hlen : piece.length = min m.limits.maxLength (piece ++ rest).length) :
    m.Tries texts piece rest := by
  refine ⟨h, hne, by omega, fun c hc => ?_⟩
  -- Something is left behind the proposal, so the length cap has cut it off.
  obtain ⟨rest, rfl⟩ := List.head?_eq_some_iff.1 hc
  rw [List.length_append, List.length_cons] at hlen
  rw [← Bool.not_eq_true, Limits.admits_iff, List.length_append, List.length_singleton]
  omega

theorem cut_eq_ok (h : m.Cuts texts []) : m.limits.cut m.text = .ok (Fragment.layOut texts) := by
  rw [h.cut_eq, Limits.pieces, List.reverse_reverse]
  rfl

theorem proceeds (hroom : m.Roomy) (h : m.Cuts texts rest) :
    m.Proceeds (.afterwards texts) := by
  have hlength := h.length_eq
  by_cases hnil : rest = []
  · subst hnil
    have hcut := h.cut_eq_ok
    refine ⟨_, ?_, .done, Nat.succ_pos _⟩
    rw [Next, State.afterwards, step, if_neg (by rw [hlength]; exact Nat.lt_irrefl _), finish,
      Limits.audit_of_cut hcut, hcut]
  · obtain ⟨piece, behind, rfl, hlen⟩ : ∃ piece behind, rest = piece ++ behind ∧
        piece.length = min m.limits.maxLength rest.length :=
      ⟨_, _, (List.take_append_drop (min m.limits.maxLength rest.length) rest).symm, by
        rw [List.length_take]; omega⟩
    have hpos := List.length_pos_of_ne_nil hnil
    refine ⟨_, ?_, .trying (h.tries hnil hlen), ?_⟩
    · rw [Next, State.afterwards, step, if_pos (by omega), h.propose_eq hroom hlen]
    · have hfewer : m.text.length - texts.flatten.length =
          m.text.length - (texts.flatten.length + 1) + 1 := by omega
      have hle : piece.length ≤ m.text.length := by
        rw [List.length_append] at hlength
        omega
      simp only [rank, State.afterwards, Attempt.behind, Nat.add_sub_cancel_left]
      rw [hfewer, Nat.succ_mul]
      omega

end Cuts

namespace Tries

theorem slice_eq (h : m.Tries texts piece rest) :
    m.slice (Attempt.behind m.limits texts piece).startByte
      (Attempt.behind m.limits texts piece).stopByte = .ok piece :=
  slice_of_eq h.cuts.text_eq

theorem giveBack_eq {c : Char} (h : m.Tries texts (piece ++ [c]) rest) (made : List Fragment) :
    m.giveBack (.behind m.limits texts (piece ++ [c])) made =
      .ok (.trying (.behind m.limits texts piece) made) := by
  have hlength : (piece ++ [c]).length = piece.length + 1 := List.length_append
  have hbytes : Text.utf8Size (piece ++ [c]) = piece.utf8Size + c.utf8Size :=
    Text.utf8Size_append piece [c]
  have hsize : m.limits.size (piece ++ [c]) = m.limits.size piece + m.limits.width c :=
    m.limits.measure.size_append piece [c]
  rw [giveBack, h.slice_eq, ok_bind, List.getLast?_concat]
  simp only [Attempt.behind, hlength, hbytes, hsize, ← Nat.add_assoc, difference_add_right, ok_bind]
  rfl

theorem shorten {c : Char} (h : m.Tries texts (piece ++ [c]) rest)
    (hheavy : m.limits.maxBytes < m.limits.size (piece ++ [c])) :
    m.Tries texts piece (c :: rest) := by
  have hsplit : piece ++ c :: rest = piece ++ [c] ++ rest := List.append_cons piece c rest
  have hlength := h.length_le
  rw [List.length_append] at hlength
  refine ⟨hsplit ▸ h.cuts, hsplit ▸ h.ne_nil, by omega, ?_⟩
  rintro _ ⟨⟩
  rw [← Bool.not_eq_true, Limits.admits_iff]
  omega

theorem proceeds_trying (h : m.Tries texts piece rest) :
    m.Proceeds (.trying (.behind m.limits texts piece) (Fragment.layOut texts)) := by
  by_cases hheavy : m.limits.maxBytes < (Attempt.behind m.limits texts piece).size
  · obtain ⟨shorter, c, rfl⟩ := Limits.exists_concat_of_lt_size hheavy
    refine ⟨_, ?_, .trying (h.shorten hheavy), ?_⟩
    · rw [Next, step, if_pos hheavy, h.giveBack_eq]
    · simp only [rank, Attempt.behind, Nat.add_sub_cancel_left, List.length_append,
        List.length_singleton]
      omega
  · refine ⟨_, ?_, .settled h (Nat.le_of_not_lt hheavy), ?_⟩
    · rw [Next, step, if_neg hheavy]
    · simp only [rank]
      omega

theorem longest_eq (h : m.Tries texts piece rest)
    (hfits : m.limits.size piece ≤ m.limits.maxBytes) :
    m.limits.longest (piece ++ rest) = piece :=
  Limits.longest_append_eq ((m.limits.admits_iff piece).2 ⟨hfits, h.length_le⟩) h.full

/-- What was kept before and this piece begin the text. -/
theorem keep (h : m.Tries texts piece rest) (hfits : m.limits.size piece ≤ m.limits.maxBytes)
    (hne : piece ≠ []) : m.Cuts (texts ++ [piece]) rest := by
  constructor
  · rw [List.flatten_concat, List.append_assoc]
    exact h.cuts.text_eq
  · rw [h.cuts.cut_eq, Limits.pieces_append _ _ hne (h.longest_eq hfits), List.flatten_concat,
      List.length_append, List.reverse_append]
    rfl

theorem keep_eq (h : m.Tries texts piece rest) :
    m.keep (.behind m.limits texts piece) (Fragment.layOut texts) =
      .ok (.afterwards (texts ++ [piece])) := by
  rw [Cutter.keep, h.slice_eq, ok_bind]
  simp only [Attempt.behind, State.afterwards, List.flatten_concat, List.length_append,
    Text.utf8Size_append, Fragment.layOut_concat, Fragment.layOut_length, Fragment.behind]
  rfl

theorem refuse_eq (h : m.Tries texts [] rest) :
    m.refuse (.behind m.limits texts []) = .ok (.done (m.limits.cut m.text)) := by
  obtain ⟨c, rest, rfl⟩ := List.exists_cons_of_ne_nil h.ne_nil
  have hcut := h.cuts.cut_eq
  rw [List.nil_append, Limits.pieces_eq_error _ _ (h.longest_eq (Nat.zero_le _))] at hcut
  rw [refuse, hcut]
  simp only [Attempt.behind, rest_of_eq h.cuts.text_eq, ok_bind]
  rfl

theorem proceeds_settled (h : m.Tries texts piece rest)
    (hfits : m.limits.size piece ≤ m.limits.maxBytes) :
    m.Proceeds (.settled (.behind m.limits texts piece) (Fragment.layOut texts)) := by
  by_cases hstop : (Attempt.behind m.limits texts piece).stop =
      (Attempt.behind m.limits texts piece).start
  · obtain rfl : piece = [] := List.eq_nil_of_length_eq_zero (Nat.add_eq_left.1 hstop)
    refine ⟨_, ?_, .done, Nat.succ_pos _⟩
    rw [Next, step, if_pos hstop, h.refuse_eq]
  · have hne : piece ≠ [] := by
      rintro rfl
      exact hstop rfl
    refine ⟨_, ?_, .outer (h.keep hfits hne), ?_⟩
    · rw [Next, step, if_neg hstop, h.keep_eq]
    · -- The piece takes a code point at least.
      have hpos := List.length_pos_of_ne_nil hne
      have hfewer : m.text.length - (texts.flatten.length + piece.length) ≤
          m.text.length - (texts.flatten.length + 1) := by omega
      have hsteps := Nat.mul_le_mul_right (m.text.length + 3) hfewer
      simp only [rank, State.afterwards, Attempt.behind, List.flatten_concat, List.length_append]
      omega

end Tries

/-! ### What is promised -/

/-- The counters of an attempt agree with the piece that they tell of. -/
structure Attempt.Exact (m : Cutter) (a : Attempt) (piece : Text) : Prop where
  slice_eq : m.slice a.startByte a.stopByte = .ok piece
  sizeOf_eq : m.sizeOf piece = .ok a.size
  size_eq : a.size = m.limits.size piece
  start_le : a.start ≤ a.stop
  length_eq : a.stop - a.start = piece.length
  text_eq : piece = (m.text.take a.stop).drop a.start
  startByte_isValid : String.Pos.Raw.IsValid (String.ofList m.text) ⟨a.startByte⟩
  stopByte_isValid : String.Pos.Raw.IsValid (String.ofList m.text) ⟨a.stopByte⟩

/-- A machine that does not fault and comes to the cut of its text. A piece that is too heavy has
something to give back, and from one proposal to the next the machine advances. -/
structure Faultless (m : Cutter) : Prop where
  next : ∀ n s, m.Reaches n s → s = .done (m.limits.cut m.text) ∨ ∃ s', m.Next s s'
  exact : ∀ n a made, m.Reaches n (.trying a made) ∨ m.Reaches n (.settled a made) →
    ∃ piece, a.Exact m piece
  concat : ∀ n a made, m.Reaches n (.trying a made) → m.limits.maxBytes < a.size →
    ∃ piece c, m.slice a.startByte a.stopByte = .ok (piece ++ [c])
  fits : ∀ n a made, m.Reaches n (.settled a made) → a.size ≤ m.limits.maxBytes
  advances : ∀ n start startByte made start' startByte' made',
    m.Reaches n (.outer start startByte made) →
    Relation.TransGen m.Next (.outer start startByte made) (.outer start' startByte' made') →
    start < start'
  exits : ∀ n start startByte made, m.Reaches n (.outer start startByte made) →
    ¬ start < m.text.length →
    start = m.text.length ∧ startByte = m.text.utf8Size ∧ m.limits.cut m.text = .ok made
  bounded : ∀ n s, m.Reaches n s → n ≤ m.text.length * (m.text.length + 3) + 2
  ends : ∃ n, m.Reaches n (.done (m.limits.cut m.text))

theorem Tries.exact (hroom : m.Roomy) (h : m.Tries texts piece rest) :
    (Attempt.behind m.limits texts piece).Exact m piece := by
  have htext : m.text = (texts ++ [piece, rest]).flatten := by simp [h.cuts.text_eq]
  have hslice : (Fragment.behind texts piece).IsSlice m.text :=
    htext ▸ Fragment.isSlice_behind texts [rest] piece
  have hpiece : piece <:+: m.text :=
    ⟨texts.flatten, rest, by rw [h.cuts.text_eq, List.append_assoc]⟩
  exact {
    slice_eq := h.slice_eq
    sizeOf_eq := hroom.sizeOf hpiece
    size_eq := rfl
    start_le := hslice.start_le
    length_eq := Nat.add_sub_cancel_left _ _
    text_eq := hslice.text_eq
    startByte_isValid := hslice.isValid_byteStart
    stopByte_isValid := hslice.isValid_byteStop }

namespace Invariant

variable {start startByte : Nat} {a : Attempt} {made : List Fragment}

theorem exact_of_trying (hroom : m.Roomy) (h : m.Invariant (.trying a made)) :
    ∃ piece, a.Exact m piece := by
  cases h with
  | trying h => exact ⟨_, h.exact hroom⟩

theorem exact_of_settled (hroom : m.Roomy) (h : m.Invariant (.settled a made)) :
    ∃ piece, a.Exact m piece := by
  cases h with
  | settled h _ => exact ⟨_, h.exact hroom⟩

theorem concat_of_trying (h : m.Invariant (.trying a made))
    (hheavy : m.limits.maxBytes < a.size) :
    ∃ piece c, m.slice a.startByte a.stopByte = .ok (piece ++ [c]) := by
  cases h with
  | trying h =>
      obtain ⟨shorter, c, rfl⟩ := Limits.exists_concat_of_lt_size hheavy
      exact ⟨shorter, c, h.slice_eq⟩

theorem fits_of_settled (h : m.Invariant (.settled a made)) : a.size ≤ m.limits.maxBytes := by
  cases h with
  | settled _ hfits => exact hfits

theorem exit_of_outer (h : m.Invariant (.outer start startByte made))
    (hend : ¬ start < m.text.length) :
    start = m.text.length ∧ startByte = m.text.utf8Size ∧ m.limits.cut m.text = .ok made := by
  cases h with
  | @outer texts rest h =>
      have hlength := h.length_eq
      obtain rfl : rest = [] := List.eq_nil_of_length_eq_zero (by omega)
      exact ⟨hlength.symm, h.utf8Size_eq.symm, h.cut_eq_ok⟩

end Invariant

/-! ### Runs -/

theorem Invariant.proceeds (hroom : m.Roomy) (h : m.Invariant s) :
    s = .done (m.limits.cut m.text) ∨ m.Proceeds s := by
  cases h with
  | entry => exact .inr (proceeds_entry hroom)
  | outer h => exact .inr (h.proceeds hroom)
  | trying h => exact .inr h.proceeds_trying
  | settled h hfits => exact .inr (h.proceeds_settled hfits)
  | done => exact .inl rfl

theorem Next.unique {s₁ s₂ : State} (h₁ : m.Next s s₁) (h₂ : m.Next s s₂) : s₁ = s₂ := by
  rw [Next] at h₁ h₂
  rw [h₁] at h₂
  cases h₂
  rfl

/-- What a step keeps to, since there is no other step. -/
theorem Invariant.next (hroom : m.Roomy) (h : m.Invariant s) (hnext : m.Next s s') :
    m.Invariant s' ∧ m.rank s' < m.rank s := by
  obtain rfl | ⟨s'', hnext', hinvariant, hrank⟩ := h.proceeds hroom
  · cases hnext
  · obtain rfl := hnext.unique hnext'
    exact ⟨hinvariant, hrank⟩

theorem Reaches.invariant (hroom : m.Roomy) (h : m.Reaches n s) :
    m.Invariant s ∧ n + m.rank s ≤ m.rank .entry := by
  induction h with
  | entry => exact ⟨.entry, (Nat.zero_add _).le⟩
  | next _ hnext ih =>
      obtain ⟨hinvariant, hrank⟩ := ih.1.next hroom hnext
      exact ⟨hinvariant, by omega⟩

/-- A machine comes to its end, however far it has come. -/
theorem Reaches.exists_done (hroom : m.Roomy) (h : m.Reaches n s) :
    ∃ n', m.Reaches n' (.done (m.limits.cut m.text)) := by
  induction hk : m.rank s using Nat.strong_induction_on generalizing n s with
  | _ k ih =>
      obtain rfl | ⟨s', hnext, -, hrank⟩ := (h.invariant hroom).1.proceeds hroom
      · exact ⟨n, h⟩
      · exact ih _ (hk ▸ hrank) (h.next hnext) rfl

theorem Invariant.transGen (hroom : m.Roomy) (h : m.Invariant s)
    (hnext : Relation.TransGen m.Next s s') : m.Invariant s' ∧ m.rank s' < m.rank s := by
  induction hnext with
  | single hnext => exact h.next hroom hnext
  | tail _ hnext ih =>
      obtain ⟨hinvariant, hrank⟩ := ih.1.next hroom hnext
      exact ⟨hinvariant, hrank.trans ih.2⟩

theorem Roomy.faultless (hroom : m.Roomy) : m.Faultless := by
  constructor
  case next =>
    intro n s h
    obtain rfl | ⟨s', hnext, -⟩ := (h.invariant hroom).1.proceeds hroom
    · exact .inl rfl
    · exact .inr ⟨s', hnext⟩
  case exact =>
    rintro n a made (h | h)
    · exact (h.invariant hroom).1.exact_of_trying hroom
    · exact (h.invariant hroom).1.exact_of_settled hroom
  case concat => exact fun n a made h hheavy => (h.invariant hroom).1.concat_of_trying hheavy
  case fits => exact fun n a made h => (h.invariant hroom).1.fits_of_settled
  case advances =>
    intro n start startByte made start' startByte' made' h hnext
    -- The rank of a proposal falls just when its start rises.
    have hrank := ((h.invariant hroom).1.transGen hroom hnext).2
    have hfewer : (m.text.length - start') * (m.text.length + 3) <
        (m.text.length - start) * (m.text.length + 3) := Nat.lt_of_succ_lt_succ hrank
    have hless := Nat.lt_of_mul_lt_mul_right hfewer
    omega
  case exits => exact fun n start startByte made h hend => (h.invariant hroom).1.exit_of_outer hend
  case bounded => exact fun n s h => (Nat.le_add_right n _).trans (h.invariant hroom).2
  case ends => exact Reaches.entry.exists_done hroom

end Cutter

/-! ### The rest of encoding -/

namespace Audit

variable {accessor : String} {literals : List Literal} {position : Nat}

theorem inOrderFrom_eq_ok
    (h : literals.map Literal.index = List.range' position literals.length) :
    inOrderFrom accessor position literals = .ok () := by
  induction literals generalizing position with
  | nil => rfl
  | cons l literals ih =>
      rw [List.map_cons, List.length_cons, List.range'_succ] at h
      obtain ⟨hindex, htail⟩ := List.cons.inj h
      rw [inOrderFrom, if_neg (not_not.2 hindex), ih htail]

/-- Numbered literals make a set that passes. -/
theorem accessors_assemble (partPrefix accessor : String) (hne : literals ≠ [])
    (hindex : literals.map Literal.index = List.range literals.length) :
    accessors literals.length (Accessors.assemble partPrefix accessor literals) = .ok () := by
  have hchunked := Accessors.isChunked_assemble_of_ne_nil partPrefix accessor hne
  simp only [accessors, Accessors.count, Accessors.literals_assemble, hchunked,
    Accessors.name_assemble, ne_eq, not_true_eq_false, if_false]
  exact inOrderFrom_eq_ok (hindex.trans List.range_eq_range')

end Audit

namespace Encoder

variable {e : Encoder} {accessor : String} {t : Text} {fs : List Fragment} {word : Nat}

/-- What is computed and asserted about the fragments of a cut and the set made from them. The sums
are those of a fragment and the code point behind it. -/
structure Checked (e : Encoder) (accessor : String) (t : Text) (word : Nat)
    (fs : List Fragment) : Prop where
  start_le : ∀ f ∈ fs, f.start ≤ f.stop ∧ f.byteStart ≤ f.byteStop
  size_lt : ∀ f ∈ fs, e.limits.size f.text < word
  sum_lt : ∀ i f next c, fs[i]? = some f → fs[i + 1]? = some next → next.text.head? = some c →
    e.limits.size f.text + e.limits.width c < word
  fragments : Audit.fragments e.limits t fs = .ok ()
  accessors : ∃ set,
    Audit.assemble e.partPrefix accessor (fs.map (Fragment.literal e.target)) = .ok set ∧
      Audit.accessors fs.length set = .ok () ∧ e.encode accessor t = .ok set

theorem size_lt_of_infix (e : Encoder) (hroom : 2 * t.utf8Size < word) {piece : Text}
    (h : piece <:+: t) : e.limits.size piece < word := by
  have hle := e.limits.measure.size_le_of_infix h
  have htwo := e.limits.measure.size_le_two_mul t
  rw [Limits.size]
  omega

theorem checked_of_cut (accessor : String) (hroom : 2 * t.utf8Size < word)
    (h : e.limits.cut t = .ok fs) : e.Checked accessor t word fs := by
  have hslices := Limits.isSlice_of_cut h
  obtain ⟨texts, hcut, hfs⟩ := Limits.cut_eq_ok_iff.1 h
  constructor
  case start_le =>
    intro f hf
    have hbytes := (hslices f hf).measured.2
    exact ⟨(hslices f hf).start_le, by omega⟩
  case size_lt =>
    intro f hf
    rw [(hslices f hf).text_eq]
    exact e.size_lt_of_infix hroom
      ((List.drop_suffix _ _).isInfix.trans (List.take_prefix _ _).isInfix)
  case sum_lt =>
    intro i f next c hf hnext hc
    rw [hfs] at hf hnext
    obtain ⟨before, s, u, rest, rfl, rfl, rfl⟩ := Fragment.layOut_consecutive hf hnext
    obtain ⟨u, rfl⟩ := List.head?_eq_some_iff.1 hc
    have hinfix : s ++ [c] <:+: t :=
      ⟨before.flatten, u ++ rest.flatten, by rw [← hcut.flatten]; simp⟩
    have hsize : e.limits.size (s ++ [c]) = e.limits.size s + e.limits.width c :=
      e.limits.measure.size_append s [c]
    exact hsize ▸ e.size_lt_of_infix hroom hinfix
  case fragments => exact Limits.audit_of_cut h
  case accessors =>
    have hne : fs.map (Fragment.literal e.target) ≠ [] :=
      mt List.map_eq_nil_iff.1 (Limits.ne_nil_of_cut h)
    have hindex : (fs.map (Fragment.literal e.target)).map Literal.index =
        List.range (fs.map (Fragment.literal e.target)).length := by
      rw [List.map_map, List.length_map, hfs, Fragment.layOut_length]
      exact Fragment.layOut_map_index texts
    have hassemble := Audit.accessors_assemble e.partPrefix accessor hne hindex
    rw [List.length_map] at hassemble
    refine ⟨_, ?_, hassemble, e.encode_of_cut accessor h⟩
    rw [Audit.assemble, if_neg]
    simpa using hne

/-- Encoding runs without a fault. A text takes up less than half of what an address can count, so
that the hypothesis holds of every text; the limits and their measure may be any. -/
theorem encode_faultless (e : Encoder) (accessor : String) (t : Text) (word : Nat)
    (hroom : 2 * t.utf8Size < word) :
    (Cutter.mk e.limits t word).Faultless ∧
      ∀ fs, e.limits.cut t = .ok fs → e.Checked accessor t word fs :=
  ⟨Cutter.Roomy.faultless hroom, fun _ h => checked_of_cut accessor hroom h⟩

/-- The second proposal is the last two code points, which are too heavy together. -/
theorem encode_faultless_mixedWidths :
    2 * Limits.mixedWidths.utf8Size < 2 ^ 64 ∧
      (Cutter.mk Limits.tight Limits.mixedWidths (2 ^ 64)).Faultless ∧
      (Cutter.mk Limits.tight Limits.mixedWidths (2 ^ 64)).Reaches 5
        (.trying ⟨3, 4, 5, 9, 7⟩ [⟨0, 0, 3, 0, 4, ['a', '\x00', 'é']⟩]) ∧
      tightKotlin.Checked "body" Limits.mixedWidths (2 ^ 64)
        (Fragment.layOut [['a', '\x00', 'é'], ['😀'], ['b']]) := by
  have hroom : 2 * Limits.mixedWidths.utf8Size < 2 ^ 64 := by decide +kernel
  obtain ⟨hfaultless, hchecked⟩ :=
    tightKotlin.encode_faultless "body" Limits.mixedWidths (2 ^ 64) hroom
  have hfirst : (Cutter.mk Limits.tight Limits.mixedWidths (2 ^ 64)).Reaches 2
      (.trying ⟨0, 0, 3, 4, 5⟩ []) := .next (s := .outer 0 0 []) (.next .entry rfl) rfl
  have hsecond : (Cutter.mk Limits.tight Limits.mixedWidths (2 ^ 64)).Reaches 4
      (.outer 3 4 [⟨0, 0, 3, 0, 4, ['a', '\x00', 'é']⟩]) :=
    .next (s := .settled ⟨0, 0, 3, 4, 5⟩ []) (hfirst.next rfl) rfl
  exact ⟨hroom, hfaultless, hsecond.next rfl, hchecked _ (by decide +kernel)⟩

/-- With no more room than twice the text, the size of a first piece can be too large. -/
example : (Cutter.mk Limits.tight ['\x00', '\x00', '\x00'] 6).step (.outer 0 0 []) =
    some (.error .overflow) := rfl

end Encoder

end LiteralPack
