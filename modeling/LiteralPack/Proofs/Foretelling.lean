import Mathlib.Algebra.GroupWithZero.Nat
import LiteralPack.Proofs.Accounting

/-!
Plans foretell what is generated. A plan and a type that come from one cut file agree in everything
that a plan speaks of, its fragments add up to the whole text, and a manifest is planned with the
same failures with which it is generated.
-/

namespace LiteralPack

theorem Measure.size_flatten (m : Measure) (texts : List Text) :
    m.size texts.flatten = (texts.map m.size).sum := by
  induction texts with
  | nil => rfl
  | cons t texts ih => rw [List.flatten_cons, size_append, ih, List.map_cons, List.sum_cons]

namespace Limits

variable {limits : Limits} {t : Text} {fs : List Fragment}

theorem flatten_of_cut (h : limits.cut t = .ok fs) : (fs.map Fragment.text).flatten = t := by
  obtain ⟨texts, hcut, rfl⟩ := cut_eq_ok_iff.1 h
  rw [Fragment.layOut_map_text, hcut.flatten]

theorem ne_nil_of_cut (h : limits.cut t = .ok fs) : fs ≠ [] := by
  obtain ⟨texts, hcut, rfl⟩ := cut_eq_ok_iff.1 h
  rw [ne_eq, ← List.length_eq_zero_iff, Fragment.layOut_length, List.length_eq_zero_iff]
  exact hcut.ne_nil

theorem isSlice_of_cut (h : limits.cut t = .ok fs) : ∀ f ∈ fs, f.IsSlice t := by
  obtain ⟨texts, hcut, rfl⟩ := cut_eq_ok_iff.1 h
  rw [← hcut.flatten]
  exact fun f hf => Fragment.isSlice_of_mem_layOut hf

theorem measured_of_cut (h : limits.cut t = .ok fs) : ∀ f ∈ fs, f.Measured :=
  fun f hf => (isSlice_of_cut h f hf).measured

/-- The fragments of a cut add up to the whole text. -/
theorem sum_charLen_of_cut (h : limits.cut t = .ok fs) :
    (fs.map Fragment.charLen).sum = t.length := by
  have hlengths : fs.map Fragment.charLen = (fs.map Fragment.text).map List.length := by
    rw [List.map_map]
    exact List.map_congr_left fun f hf => (measured_of_cut h f hf).charLen_eq
  rw [hlengths, ← List.length_flatten, flatten_of_cut h]

theorem sum_size_of_cut (h : limits.cut t = .ok fs) :
    (fs.map fun f => limits.size f.text).sum = limits.size t := by
  have hsize := limits.measure.size_flatten (fs.map Fragment.text)
  rw [flatten_of_cut h, List.map_map] at hsize
  exact hsize.symm

end Limits

theorem Accessors.assembly_assemble (partPrefix accessor : String) {literals : List Literal}
    (h : literals ≠ []) :
    (assemble partPrefix accessor literals).assembly =
      Plan.names partPrefix accessor literals.length := by
  match literals with
  | [] => exact absurd rfl h
  | [_] => rfl
  | l :: l' :: literals =>
      have hmany : 1 < (l :: l' :: literals).length := by simp
      rw [Plan.names, if_pos hmany, ← map_name_parts]
      rfl

namespace Plan

/-- What a plan says of the type that would be generated. -/
structure Foretells (p : Plan) (t : EmbeddedType) : Prop where
  typeName_eq : t.declaration.typeName = p.typeName
  path_eq : t.declaration.path = p.path
  accessor_eq : t.declaration.accessor = p.accessor
  name_eq : t.accessors.name = p.accessor
  count_eq : t.accessors.count = p.fragments.length
  isChunked_eq : t.accessors.isChunked = p.isChunked
  assembly_eq : t.accessors.assembly = p.partNames
  charLens_eq : t.accessors.literals.map Literal.charLen = p.fragments.map FragmentSize.chars

/-- What a plan says of the summary that would be given. -/
structure ForetellsSummary (p : Plan) (s : Summary) : Prop where
  typeName_eq : s.typeName = p.typeName
  accessor_eq : s.accessor = p.accessor
  chars_eq : s.chars = p.chars
  fragments_eq : s.fragments = p.fragments.length
  chunked_eq : s.chunked = p.isChunked

/-- The fragments of a plan add up to what it says of the whole text. -/
structure Adds (p : Plan) : Prop where
  chars_eq : (p.fragments.map FragmentSize.chars).sum = p.chars
  bytes_eq : (p.fragments.map FragmentSize.bytes).sum = p.bytes

end Plan

namespace CutFile

variable {limits : Limits} {e : Encoder} {c : CutFile}

theorem adds_plan (partPrefix : String) (h : limits.cut c.text = .ok c.fragments) :
    (c.plan limits partPrefix).Adds := by
  constructor
  · rw [plan, List.map_map]
    exact Limits.sum_charLen_of_cut h
  · rw [plan, List.map_map]
    exact Limits.sum_size_of_cut h

theorem count_generated (e : Encoder) (c : CutFile) :
    (c.accessors e).count = c.fragments.length := by
  rw [accessors, Encoder.assembled, Accessors.count, Accessors.literals_assemble, List.length_map]

theorem isChunked_generated (h : c.fragments ≠ []) :
    (c.accessors e).isChunked = decide (1 < c.fragments.length) := by
  have hne : c.fragments.map (Fragment.literal e.target) ≠ [] := mt List.map_eq_nil_iff.1 h
  rw [accessors, Encoder.assembled, Accessors.isChunked_assemble_of_ne_nil _ _ hne,
    List.length_map]

theorem foretells_plan (h : e.limits.cut c.text = .ok c.fragments) :
    (c.plan e.limits e.partPrefix).Foretells (c.generated e).type := by
  have hne := Limits.ne_nil_of_cut h
  constructor
  case typeName_eq => rfl
  case path_eq => rfl
  case accessor_eq => rfl
  case name_eq => exact Accessors.name_assemble _ _ _
  case count_eq =>
    rw [plan, List.length_map]
    exact c.count_generated e
  case isChunked_eq =>
    rw [Plan.isChunked, plan, List.length_map]
    exact isChunked_generated hne
  case assembly_eq =>
    have hnames := Accessors.assembly_assemble e.partPrefix c.declaration.accessor
      (mt List.map_eq_nil_iff.1 hne : c.fragments.map (Fragment.literal e.target) ≠ [])
    rwa [List.length_map] at hnames
  case charLens_eq =>
    rw [generated, accessors, Encoder.assembled, Accessors.literals_assemble, plan, List.map_map,
      List.map_map]
    rfl

theorem foretellsSummary_plan (h : e.limits.cut c.text = .ok c.fragments) :
    (c.plan e.limits e.partPrefix).ForetellsSummary (c.generated e).summary := by
  have hforetells := foretells_plan h
  exact ⟨rfl, rfl, rfl, hforetells.count_eq, hforetells.isChunked_eq⟩

end CutFile

namespace Manifest

variable {m : Manifest} {settings : Settings} {load : Loader}

theorem plan_eq_map (m : Manifest) (settings : Settings) (load : Loader) :
    m.plan settings load = (m.cutFiles settings load).map
      (Except.map (CutFile.plan settings.limits settings.partPrefix)) :=
  Plan.ofLoaded_eq_map settings _

theorem forall₂_plan_types (m : Manifest) (settings : Settings) (verify : Bool) (load : Loader) :
    List.Forall₂ Plan.Foretells (values (m.plan settings load))
      (m.generate settings verify load).container.types := by
  simp only [plan_eq_map, values_map, generate_eq, List.forall₂_map_left_iff,
    List.forall₂_map_right_iff, List.forall₂_same]
  exact fun c hc => CutFile.foretells_plan (e := settings.encoder) (mem_values_cutFiles.1 hc).2.2

theorem forall₂_plan_summaries (m : Manifest) (settings : Settings) (verify : Bool)
    (load : Loader) :
    List.Forall₂ Plan.ForetellsSummary (values (m.plan settings load))
      (m.generate settings verify load).summaries := by
  simp only [plan_eq_map, values_map, generate_eq, List.forall₂_map_left_iff,
    List.forall₂_map_right_iff, List.forall₂_same]
  exact fun c hc =>
    CutFile.foretellsSummary_plan (e := settings.encoder) (mem_values_cutFiles.1 hc).2.2

theorem adds_of_mem_plan {p : Plan} (h : p ∈ values (m.plan settings load)) : p.Adds := by
  rw [plan_eq_map, values_map] at h
  obtain ⟨c, hc, rfl⟩ := List.mem_map.1 h
  exact CutFile.adds_plan settings.partPrefix (mem_values_cutFiles.1 hc).2.2

theorem failures_generate (m : Manifest) (settings : Settings) (verify : Bool) (load : Loader) :
    (m.generate settings verify load).failures =
      (faults (m.plan settings load)).filter Failure.isShape ++
        (faults (m.plan settings load)).filter (!·.isShape) := by
  rw [generate_eq, plan_eq_map, faults_map]

/-- A plan fails for the entry or for its file, and never for what the library made of it. -/
theorem ne_invariant_of_mem_faults_plan {f : Failure} (h : f ∈ faults (m.plan settings load))
    (violation : Violation) : f.cause ≠ .generate (.invariant violation) := by
  rw [plan_eq_map, faults_map] at h
  exact ne_invariant_of_mem_faults h violation

theorem fates_plan (m : Manifest) (settings : Settings) (load : Loader) :
    m.Fates settings load (fun c p => p = c.plan settings.limits settings.partPrefix)
      (m.plan settings load) := by
  rw [plan_eq_map]
  exact (m.fates_cutFiles settings load).map _ fun c c' _ hc => by rw [hc]

end Manifest

end LiteralPack
