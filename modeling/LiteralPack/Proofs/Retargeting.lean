import LiteralPack.Proofs.Foretelling

/-!
One manifest for two targets. Whether an entry becomes a type is settled by its shape, its file and
the cut, and none of these looks at the target; the verifier decodes the literals of both alike. So
the target spells the literals and decides nothing else, and even the spelling is the same wherever
the text has neither a dollar sign nor a form feed.
-/

namespace LiteralPack

namespace Literal

theorem letter?_eq (target target' : Target) {c : Char} (hdollar : c ≠ '$') (hfeed : c ≠ '\x0c') :
    letter? target c = letter? target' c := by
  cases target <;> cases target'
  case java.java | kotlin.kotlin => rfl
  all_goals
    unfold letter?
    split <;> simp_all

theorem escape_eq (target target' : Target) {t : Text} (hdollar : '$' ∉ t) (hfeed : '\x0c' ∉ t) :
    escape target t = escape target' t := by
  apply List.flatMap_congr
  intro c hc
  have hletter := letter?_eq target target' (fun h => hdollar (h ▸ hc)) (fun h => hfeed (h ▸ hc))
  rw [escapeChar, escapeChar, hletter]

/-- Two spellings of one literal. -/
structure Respelled (l l' : Literal) : Prop where
  index_eq : l.index = l'.index
  charLen_eq : l.charLen = l'.charLen
  byteLen_eq : l.byteLen = l'.byteLen
  exists_text : ∃ t, decode l.body = .ok t ∧ decode l'.body = .ok t ∧
    ('$' ∉ t → '\x0c' ∉ t → l.body = l'.body)

end Literal

theorem Fragment.respelled_literal (target target' : Target) (f : Fragment) :
    Literal.Respelled (f.literal target) (f.literal target') :=
  ⟨rfl, rfl, rfl, f.text, Literal.decode_escape target f.text, Literal.decode_escape target' f.text,
    Literal.escape_eq target target'⟩

/-- Two sets that differ in the spelling of their literals only. -/
structure Accessors.Respelled (set set' : Accessors) : Prop where
  name_eq : set.name = set'.name
  isChunked_eq : set.isChunked = set'.isChunked
  assembly_eq : set.assembly = set'.assembly
  literals : List.Forall₂ Literal.Respelled set.literals set'.literals

structure EmbeddedType.Respelled (t t' : EmbeddedType) : Prop where
  declaration_eq : t.declaration = t'.declaration
  accessors : t.accessors.Respelled t'.accessors

def Encoder.retarget (target : Target) (e : Encoder) : Encoder := { e with target }

def Settings.retarget (target : Target) (s : Settings) : Settings := { s with target }

theorem Encoder.respelled_assembled (e : Encoder) (target : Target) (accessor : String)
    {fs : List Fragment} (hne : fs ≠ []) :
    (e.assembled accessor fs).Respelled ((e.retarget target).assembled accessor fs) := by
  have hliterals (target : Target) : fs.map (Fragment.literal target) ≠ [] :=
    mt List.map_eq_nil_iff.1 hne
  constructor
  case name_eq => rw [assembled, assembled, Accessors.name_assemble, Accessors.name_assemble]
  case isChunked_eq =>
    rw [assembled, assembled, Accessors.isChunked_assemble, Accessors.isChunked_assemble,
      List.length_map, List.length_map]
  case assembly_eq =>
    rw [assembled, assembled, Accessors.assembly_assemble _ _ (hliterals _),
      Accessors.assembly_assemble _ _ (hliterals _), List.length_map, List.length_map]
    rfl
  case literals =>
    rw [assembled, assembled, Accessors.literals_assemble, Accessors.literals_assemble,
      List.forall₂_map_left_iff, List.forall₂_map_right_iff, List.forall₂_same]
    exact fun f _ => f.respelled_literal e.target target

namespace CutFile

variable {e : Encoder} {c : CutFile}

theorem respelled_generated (target : Target) (h : e.limits.cut c.text = .ok c.fragments) :
    (c.generated e).type.Respelled (c.generated (e.retarget target)).type :=
  ⟨rfl, e.respelled_assembled target _ (Limits.ne_nil_of_cut h)⟩

/-- Shape and sizes are all that a summary says of a set. -/
theorem summary_generated_retarget (target : Target) (h : e.limits.cut c.text = .ok c.fragments) :
    (c.generated (e.retarget target)).summary = (c.generated e).summary := by
  have hset := (respelled_generated target h).accessors
  simp only [generated, Declaration.summary, Summary.mk.injEq, true_and]
  exact ⟨hset.literals.length_eq.symm, hset.isChunked_eq.symm⟩

end CutFile

namespace Manifest

/-- An override of the target has no part in whether the settings are sound. -/
theorem settings_retarget (m : Manifest) (container : Option String) (target target' : Target) :
    m.settings ⟨some target', container⟩ =
      (m.settings ⟨some target, container⟩).map (Settings.retarget target') := by
  simp only [settings]
  split
  · rfl
  · split
    · rfl
    · split
      · rfl
      · cases m.caps.limits <;> rfl

/-- The target only changes the spelling: with either target, and whether or not the sets are
verified, the same entries become types, with the same declarations, names, shapes and sizes, and
the other entries fail alike. -/
theorem generate_respelled (m : Manifest) (container : Option String) (load : Loader)
    (target target' : Target) (verify verify' : Bool) :
    m.settings ⟨some target', container⟩ =
        (m.settings ⟨some target, container⟩).map (Settings.retarget target') ∧
      ∀ settings : Settings,
        let g := m.generate settings verify load
        let g' := m.generate (settings.retarget target') verify' load
        g.summaries = g'.summaries ∧ g.failures = g'.failures ∧
          g.container.package = g'.container.package ∧ g.container.name = g'.container.name ∧
          List.Forall₂ EmbeddedType.Respelled g.container.types g'.container.types := by
  refine ⟨m.settings_retarget container target target', fun settings => ?_⟩
  have hcuts : m.cutFiles (settings.retarget target') load = m.cutFiles settings load := rfl
  have hcut : ∀ c ∈ values (m.cutFiles settings load),
      settings.limits.cut c.text = .ok c.fragments := fun c hc => (mem_values_cutFiles.1 hc).2.2
  simp only [generate_eq, hcuts, List.map_map]
  refine ⟨?summaries, trivial, rfl, rfl, ?types⟩
  case summaries =>
    exact List.map_congr_left fun c hc =>
      (CutFile.summary_generated_retarget target' (hcut c hc)).symm
  case types =>
    rw [List.forall₂_map_left_iff, List.forall₂_map_right_iff, List.forall₂_same]
    exact fun c hc => CutFile.respelled_generated target' (hcut c hc)

end Manifest

end LiteralPack
