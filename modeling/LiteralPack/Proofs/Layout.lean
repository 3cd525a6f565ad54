import LiteralPack.Proofs.Greedy

/-!
Where the fragments of a cut lie. A fragment carries its span twice, in code points and in UTF-8
bytes; laid end to end behind the texts before it, both spans select its text, so every cut is a
sequence of true slices of its source.
-/

namespace LiteralPack

theorem Text.size_utf8Encode (t : Text) : t.utf8Encode.size = t.utf8Size := by
  induction t with
  | nil => rfl
  | cons c t ih =>
      rw [List.utf8Encode_cons, ByteArray.size_append, ih, List.utf8Encode_singleton]
      simp [utf8Size, Measure.width]

/-- Any beginning of a text ends on a code-point boundary. -/
theorem Text.isValid_utf8Size_take (t : Text) (n : Nat) :
    String.Pos.Raw.IsValid (String.ofList t) ⟨utf8Size (t.take n)⟩ := by
  rw [String.Pos.Raw.isValid_iff_exists_append]
  refine ⟨String.ofList (t.take n), String.ofList (t.drop n), ?_, ?_⟩
  · rw [← String.ofList_append, List.take_append_drop]
  · ext
    rw [← size_utf8Encode, ← String.toByteArray_ofList]
    rfl

/-- The bytes behind those of `before` are those of what follows. -/
theorem Text.extract_utf8Encode (before t behind : Text) :
    (before ++ (t ++ behind)).utf8Encode.extract before.utf8Size (before ++ t).utf8Size =
      t.utf8Encode := by
  rw [List.utf8Encode_append, List.utf8Encode_append, utf8Size_append, ← size_utf8Encode,
    ← size_utf8Encode]
  exact (ByteArray.extract_append_size_add (i := 0)).trans (ByteArray.extract_append_eq_left rfl)

namespace Fragment

/-- The fragment that follows `before`. -/
def behind (before : List Text) (t : Text) : Fragment where
  index := before.length
  start := before.flatten.length
  stop := before.flatten.length + t.length
  byteStart := Text.utf8Size before.flatten
  byteStop := Text.utf8Size before.flatten + t.utf8Size
  text := t

def layBehind (before : List Text) : List Text → List Fragment
  | [] => []
  | t :: texts => behind before t :: layBehind (before ++ [t]) texts

theorem next_behind (before : List Text) (s t : Text) :
    (behind before s).next t = behind (before ++ [s]) t := by
  simp [behind, next]

theorem foldl_lay_behind (texts before : List Text) (t : Text) (laid : List Fragment) :
    (texts.foldl lay (behind before t :: laid)).reverse =
      laid.reverse ++ layBehind before (t :: texts) := by
  induction texts generalizing before t laid with
  | nil => simp [layBehind]
  | cons s texts ih =>
      rw [List.foldl_cons, lay, next_behind, ih, List.reverse_cons, List.append_assoc]
      rfl

theorem layOut_eq_layBehind (texts : List Text) : layOut texts = layBehind [] texts := by
  cases texts with
  | nil => rfl
  | cons t texts =>
      have hfirst : first t = behind [] t := by simp [first, behind]
      rw [layOut, List.foldl_cons, lay, hfirst, foldl_lay_behind]
      rfl

theorem layBehind_append (before texts others : List Text) :
    layBehind before (texts ++ others) =
      layBehind before texts ++ layBehind (before ++ texts) others := by
  induction texts generalizing before with
  | nil => simp [layBehind]
  | cons t texts ih =>
      rw [List.cons_append, layBehind, layBehind, ih, List.append_assoc]
      rfl

theorem layBehind_getElem?_eq_some_iff {before texts : List Text} {i : Nat} {f : Fragment} :
    (layBehind before texts)[i]? = some f ↔
      ∃ passed t rest, texts = passed ++ t :: rest ∧ passed.length = i ∧
        f = behind (before ++ passed) t := by
  induction texts generalizing before i with
  | nil => simp [layBehind]
  | cons s texts ih =>
      cases i with
      | zero =>
          rw [layBehind, List.getElem?_cons_zero, Option.some_inj]
          constructor
          · rintro rfl
            exact ⟨[], s, texts, rfl, rfl, by rw [List.append_nil]⟩
          · rintro ⟨passed, t, rest, htexts, hlen, rfl⟩
            obtain rfl := List.eq_nil_of_length_eq_zero hlen
            rw [List.append_nil, (List.cons.inj htexts).1]
      | succ i =>
          rw [layBehind, List.getElem?_cons_succ, ih]
          constructor
          · rintro ⟨passed, t, rest, rfl, rfl, rfl⟩
            exact ⟨s :: passed, t, rest, rfl, rfl, by rw [List.append_assoc, List.singleton_append]⟩
          · rintro ⟨passed, t, rest, htexts, hlen, rfl⟩
            obtain ⟨s', passed, rfl⟩ := List.exists_cons_of_length_eq_add_one hlen
            obtain ⟨rfl, rfl⟩ := List.cons.inj htexts
            exact ⟨passed, t, rest, rfl, Nat.succ.inj hlen, by rw [List.append_cons]⟩

theorem layOut_getElem?_eq_some_iff {texts : List Text} {i : Nat} {f : Fragment} :
    (layOut texts)[i]? = some f ↔
      ∃ before t rest, texts = before ++ t :: rest ∧ before.length = i ∧ f = behind before t := by
  rw [layOut_eq_layBehind, layBehind_getElem?_eq_some_iff]
  rfl

theorem layBehind_map_index (before texts : List Text) :
    (layBehind before texts).map index = List.range' before.length texts.length := by
  induction texts generalizing before with
  | nil => rfl
  | cons t texts ih =>
      rw [layBehind, List.map_cons, ih, List.length_append, List.length_singleton]
      exact List.range'_succ.symm

theorem layOut_map_index (texts : List Text) :
    (layOut texts).map index = List.range texts.length := by
  rw [layOut_eq_layBehind, layBehind_map_index, List.range_eq_range']
  rfl

theorem mem_layOut {texts : List Text} {f : Fragment} :
    f ∈ layOut texts ↔ ∃ before t rest, texts = before ++ t :: rest ∧ f = behind before t := by
  simp only [List.mem_iff_getElem?, layOut_getElem?_eq_some_iff]
  constructor
  · rintro ⟨_, before, t, rest, htexts, -, hf⟩
    exact ⟨before, t, rest, htexts, hf⟩
  · rintro ⟨before, t, rest, htexts, hf⟩
    exact ⟨_, before, t, rest, htexts, rfl, hf⟩

theorem layOut_consecutive {texts : List Text} {i : Nat} {f g : Fragment}
    (hf : (layOut texts)[i]? = some f) (hg : (layOut texts)[i + 1]? = some g) :
    ∃ before s t rest, texts = before ++ s :: t :: rest ∧
      f = behind before s ∧ g = behind (before ++ [s]) t := by
  obtain ⟨before, s, rest, rfl, rfl, rfl⟩ := layOut_getElem?_eq_some_iff.1 hf
  obtain ⟨before', t, rest', htexts, hlen, rfl⟩ := layOut_getElem?_eq_some_iff.1 hg
  rw [List.append_cons] at htexts
  obtain ⟨rfl, rfl⟩ := List.append_inj htexts (by rw [hlen, List.length_append]; rfl)
  exact ⟨before, s, t, rest', rfl, rfl, rfl⟩

theorem getLast?_layOut_eq_some_iff {texts : List Text} {f : Fragment} :
    (layOut texts).getLast? = some f ↔ ∃ before t, texts = before ++ [t] ∧ f = behind before t := by
  rw [List.getLast?_eq_getElem?, layOut_length, layOut_getElem?_eq_some_iff]
  constructor
  · rintro ⟨before, t, rest, rfl, hlen, rfl⟩
    rw [List.length_append, List.length_cons] at hlen
    obtain rfl := List.eq_nil_of_length_eq_zero (l := rest) (by omega)
    exact ⟨before, t, rfl, rfl⟩
  · rintro ⟨before, t, rfl, rfl⟩
    exact ⟨before, t, [], rfl, by simp, rfl⟩

/-- Both spans of a fragment select its text. -/
structure IsSlice (t : Text) (f : Fragment) : Prop where
  start_le : f.start ≤ f.stop
  stop_le : f.stop ≤ t.length
  text_eq : f.text = (t.take f.stop).drop f.start
  byteStart_eq : f.byteStart = Text.utf8Size (t.take f.start)
  byteStop_eq : f.byteStop = Text.utf8Size (t.take f.stop)

theorem isSlice_behind (before rest : List Text) (t : Text) :
    (behind before t).IsSlice (before ++ t :: rest).flatten := by
  have htake : (before ++ t :: rest).flatten.take (before.flatten.length + t.length) =
      before.flatten ++ t := by
    rw [List.flatten_append, List.flatten_cons, ← List.append_assoc, ← List.length_append,
      List.take_left]
  refine ⟨Nat.le_add_right _ _, ?_, ?_, ?_, ?_⟩
  · rw [List.flatten_append, List.flatten_cons, ← List.append_assoc, List.length_append,
      List.length_append]
    exact Nat.le_add_right _ _
  · simp only [behind, htake, List.drop_left]
  · simp only [behind, List.flatten_append, List.take_left]
  · simp only [behind, htake, Text.utf8Size_append]

namespace IsSlice

variable {t : Text} {f : Fragment}

theorem take_stop (h : f.IsSlice t) : t.take f.stop = t.take f.start ++ f.text := by
  rw [h.text_eq]
  conv_lhs => rw [← List.take_append_drop f.start (t.take f.stop)]
  rw [List.take_take, min_eq_left h.start_le]

/-- The byte span selects the encoding of the text. -/
theorem extract_eq (h : f.IsSlice t) :
    t.utf8Encode.extract f.byteStart f.byteStop = f.text.utf8Encode := by
  rw [h.byteStart_eq, h.byteStop_eq, h.take_stop,
    ← Text.extract_utf8Encode _ f.text (t.drop f.stop), ← List.append_assoc, ← h.take_stop,
    List.take_append_drop]

theorem isValid_byteStart (h : f.IsSlice t) :
    String.Pos.Raw.IsValid (String.ofList t) ⟨f.byteStart⟩ :=
  h.byteStart_eq ▸ t.isValid_utf8Size_take f.start

theorem isValid_byteStop (h : f.IsSlice t) :
    String.Pos.Raw.IsValid (String.ofList t) ⟨f.byteStop⟩ :=
  h.byteStop_eq ▸ t.isValid_utf8Size_take f.stop

end IsSlice

end Fragment

namespace Limits

variable {limits : Limits} {t : Text} {texts : List Text}

/-- What a cut of `t` promises about its fragments. -/
structure Fragmented (limits : Limits) (t : Text) (fs : List Fragment) : Prop where
  ne_nil : fs ≠ []
  index_eq : ∀ (i : Nat) (f : Fragment), fs[i]? = some f → f.index = i
  head_start : ∀ f : Fragment, fs.head? = some f → f.start = 0 ∧ f.byteStart = 0
  start_eq_stop : ∀ (i : Nat) (f g : Fragment), fs[i]? = some f → fs[i + 1]? = some g →
    g.start = f.stop ∧ g.byteStart = f.byteStop
  last_stop : ∀ f : Fragment, fs.getLast? = some f → f.stop = t.length ∧ f.byteStop = t.utf8Size
  isSlice : ∀ f ∈ fs, f.IsSlice t
  bytes_eq : ∀ f ∈ fs, t.utf8Encode.extract f.byteStart f.byteStop = f.text.utf8Encode
  boundaries : ∀ f ∈ fs, String.Pos.Raw.IsValid (String.ofList t) ⟨f.byteStart⟩ ∧
    String.Pos.Raw.IsValid (String.ofList t) ⟨f.byteStop⟩
  within : ∀ f ∈ fs, f.text.length ≤ limits.maxLength ∧ limits.size f.text ≤ limits.maxBytes
  maximal : ∀ (i : Nat) (f g : Fragment), fs[i]? = some f → fs[i + 1]? = some g →
    ∃ c, t[f.stop]? = some c ∧
      (limits.maxLength < (f.text ++ [c]).length ∨ limits.maxBytes < limits.size (f.text ++ [c]))
  eq_nil_of_empty : ∀ f ∈ fs, f.text = [] → t = []
  empty : t = [] → ∃ f, fs = [f] ∧ f.text = []

theorem IsCut.maximal (h : IsCut limits t texts) {before rest : List Text} {s next : Text}
    (htexts : texts = before ++ s :: next :: rest) :
    ∃ c, t[before.flatten.length + s.length]? = some c ∧
      (limits.maxLength < (s ++ [c]).length ∨ limits.maxBytes < limits.size (s ++ [c])) := by
  obtain ⟨c, hc, hfull⟩ := List.rel_of_isChain_cons_cons (h.isChain.suffix ⟨before, htexts.symm⟩)
  rw [← Bool.not_eq_true, admits_iff, not_and_or, not_le, not_le] at hfull
  refine ⟨c, ?_, hfull.symm⟩
  obtain ⟨next, rfl⟩ := List.head?_eq_some_iff.1 hc
  rw [← h.flatten, htexts, List.flatten_append, List.flatten_cons, ← List.append_assoc,
    ← List.length_append, List.getElem?_append_right (Nat.le_refl _), Nat.sub_self]
  rfl

theorem cut_fragmented {fs : List Fragment} (h : limits.cut t = .ok fs) :
    Fragmented limits t fs := by
  obtain ⟨texts, hcut, rfl⟩ := cut_eq_ok_iff.1 h
  have hslice : ∀ f ∈ Fragment.layOut texts, f.IsSlice t := by
    intro f hf
    obtain ⟨before, s, rest, htexts, rfl⟩ := Fragment.mem_layOut.1 hf
    rw [← hcut.flatten, htexts]
    exact Fragment.isSlice_behind before rest s
  have hmem : ∀ f ∈ Fragment.layOut texts, f.text ∈ texts := by
    intro f hf
    rw [← Fragment.layOut_map_text texts]
    exact List.mem_map_of_mem hf
  constructor
  case ne_nil =>
    intro hnil
    exact hcut.ne_nil (by simpa [hnil] using Fragment.layOut_map_text texts)
  case index_eq =>
    intro i f hf
    obtain ⟨before, s, rest, -, rfl, rfl⟩ := Fragment.layOut_getElem?_eq_some_iff.1 hf
    rfl
  case head_start =>
    intro f hf
    rw [List.head?_eq_getElem?] at hf
    obtain ⟨before, s, rest, -, hlen, rfl⟩ := Fragment.layOut_getElem?_eq_some_iff.1 hf
    obtain rfl := List.eq_nil_of_length_eq_zero hlen
    exact ⟨rfl, rfl⟩
  case start_eq_stop =>
    intro i f g hf hg
    obtain ⟨before, s, next, rest, -, rfl, rfl⟩ := Fragment.layOut_consecutive hf hg
    simp [Fragment.behind]
  case last_stop =>
    intro f hf
    obtain ⟨before, s, rfl, rfl⟩ := Fragment.getLast?_layOut_eq_some_iff.1 hf
    rw [← hcut.flatten]
    simp [Fragment.behind]
  case isSlice => exact hslice
  case bytes_eq => exact fun f hf => (hslice f hf).extract_eq
  case boundaries =>
    exact fun f hf => ⟨(hslice f hf).isValid_byteStart, (hslice f hf).isValid_byteStop⟩
  case within => exact fun f hf => ((limits.admits_iff _).1 (hcut.admits _ (hmem f hf))).symm
  case maximal =>
    intro i f g hf hg
    obtain ⟨before, s, next, rest, htexts, rfl, rfl⟩ := Fragment.layOut_consecutive hf hg
    exact hcut.maximal htexts
  case eq_nil_of_empty => exact fun f hf hempty => hcut.eq_nil_of_mem (hempty ▸ hmem f hf)
  case empty =>
    rintro rfl
    cases hcut with
    | empty => exact ⟨_, rfl, rfl⟩
    | greedy ne_nil _ => exact absurd rfl ne_nil

theorem cut_fragmented_mixedWidths :
    tight.cut mixedWidths = .ok (Fragment.layOut [['a', '\x00', 'é'], ['😀'], ['b']]) ∧
      Fragmented tight mixedWidths (Fragment.layOut [['a', '\x00', 'é'], ['😀'], ['b']]) :=
  ⟨by decide +kernel, cut_fragmented (by decide +kernel)⟩

end Limits

end LiteralPack
