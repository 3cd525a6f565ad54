import LiteralPack.Proofs.Blame
import LiteralPack.Proofs.Generated

/-!
The names that a generated file declares. Each of them is an identifier and no two accessors of a
type share one, so a name is never the reason that verification refuses a generated set.
-/

namespace LiteralPack

theorem Identifier.dot_mem_of_one_lt {t : Text} (h : 1 < (dotSegments t).length) : '.' ∈ t := by
  by_contra hdot
  have hsegments : dotSegments t = [t] :=
    Text.segments_eq_singleton (Text.beq_eq_false_of_not_mem hdot)
  rw [hsegments, List.length_singleton] at h
  omega

/-! ### Sets with distinct names -/

namespace Verify

variable {limits : Limits} {source : Text} {set : Accessors} {name : String}

/-- Whatever else may be wrong with a set, its names are no reason to refuse it once they are
distinct. -/
theorem accessors_ne_duplicateName (h : (set.name :: set.assembly).Nodup) :
    accessors limits source set ≠ .error (.duplicateName name) := by
  intro herror
  have htwice := (accessors_eq_error_iff.1 herror).two_le_count
  have honce := List.nodup_iff_count_le_one.1 h name
  omega

end Verify

/-! ### Generated types -/

/-- Sound names of a generated type and of its accessors, the private ones under a given prefix. -/
structure EmbeddedType.Named (partPrefix : String) (t : EmbeddedType) : Prop where
  typeName : Identifier.isIdentifier t.declaration.typeName.toList = true
  interface : Identifier.isQualified t.declaration.interface.toList = true
  dot_mem_interface : '.' ∈ t.declaration.interface.toList
  accessor : Identifier.isIdentifier t.accessors.name.toList = true
  parts : ∀ name ∈ t.accessors.assembly, Identifier.isIdentifier name.toList = true
  numbered : ∀ (i : Nat) (name : String), t.accessors.assembly[i]? = some name →
    name = partPrefix ++ t.accessors.name ++ toString i
  nodup : (t.accessors.name :: t.accessors.assembly).Nodup

namespace Accessors

variable {partPrefix accessor name : String} {literals : List Literal}

theorem eq_partName_of_getElem? {i : Nat}
    (h : (assemble partPrefix accessor literals).assembly[i]? = some name) :
    name = partName partPrefix accessor i := by
  unfold assemble at h
  split at h
  · cases h
  · rw [assembly, map_name_parts, List.getElem?_map, Option.map_eq_some_iff] at h
    obtain ⟨j, hj, rfl⟩ := h
    obtain ⟨hlt, rfl⟩ := List.getElem?_eq_some_iff.1 hj
    rw [List.getElem_range]

end Accessors

theorem EmbeddedType.named_of_declaration {e : Entry} {t : EmbeddedType} {partPrefix : String}
    {literals : List Literal} (hlead : isPartPrefix partPrefix.toList = true)
    (h : e.declaration = .ok t.declaration)
    (hset : t.accessors = Accessors.assemble partPrefix t.declaration.accessor literals) :
    t.Named partPrefix := by
  obtain ⟨htypeName, hinterface, haccessor⟩ := e.names_of_declaration h
  obtain ⟨-, hlength, -⟩ := e.checks_of_declaration h
  constructor
  case typeName => exact htypeName
  case interface => exact hinterface
  case dot_mem_interface => exact Identifier.dot_mem_of_one_lt hlength
  case accessor => rwa [hset, Accessors.name_assemble]
  case parts =>
    rw [hset]
    intro name hname
    obtain ⟨index, rfl⟩ := Accessors.exists_eq_partName hname
    exact isIdentifier_partName hlead haccessor index
  case numbered =>
    rw [hset, Accessors.name_assemble]
    exact fun i name hname => Accessors.eq_partName_of_getElem? hname
  case nodup =>
    rw [hset]
    exact Accessors.nodup_names partPrefix t.declaration.accessor literals

/-- Everything that a generated file declares has an identifier for its name, and every type has
distinct names for its accessors, so that no verification ever finds one used twice. -/
theorem Manifest.generate_names (m : Manifest) (overrides : Overrides) {settings : Settings}
    (h : m.settings overrides = .ok settings) (verify : Bool) (load : Loader) :
    let g := m.generate settings verify load
    Identifier.isIdentifier g.container.name.toList = true ∧
      (g.container.package = "" ∨ Identifier.isQualified g.container.package.toList = true) ∧
      (∀ t ∈ g.container.types, t.Named settings.partPrefix ∧
        t.accessors.name = t.declaration.accessor ∧
        ∀ limits source name,
          Verify.accessors limits source t.accessors ≠ .error (.duplicateName name)) ∧
      ∀ f ∈ g.failures, ∀ name, f.cause ≠ .generate (.invariant (.duplicateName name)) := by
  obtain ⟨hcontainer, hpackage, hlead⟩ := names_of_settings h
  refine ⟨hcontainer, ?package, ?types, ?failures⟩
  case package =>
    rw [isPackage, Bool.or_eq_true, List.isEmpty_iff, String.toList_eq_nil_iff] at hpackage
    exact hpackage
  case types =>
    intro t ht
    obtain ⟨hchecked, text, -, hencode⟩ := mem_generate_iff.1 ht
    obtain ⟨e, -, hdeclaration⟩ := Declaration.mem_claimAll hchecked
    obtain ⟨texts, -, hset⟩ := Encoder.encode_eq_ok_iff.1 hencode
    have hnamed := EmbeddedType.named_of_declaration hlead hdeclaration hset
    refine ⟨hnamed, ?_, fun limits source name => ?_⟩
    · rw [hset, Accessors.name_assemble]
    · exact Verify.accessors_ne_duplicateName hnamed.nodup
  case failures =>
    intro f hf name
    exact ne_invariant_of_mem_faults (mem_failures_generate.1 hf) (.duplicateName name)

/-- The prefix and the accessor spell a reserved word. -/
def portraits : Manifest where
  version := 1
  package := " demo.art "
  partPrefix := "inter"
  caps := Limits.tight.toCaps
  entries := [⟨" demo.Portrait ", "fun face(): String", ⟨"portrait.txt"⟩⟩]

def portraitSettings : Settings where
  target := .java
  package := "demo.art"
  container := "Gallery"
  partPrefix := "inter"
  limits := Limits.tight

def portraitFiles : Loader := fun _ => .ok ['a', '😀', 'b']

theorem Manifest.generate_names_portraits :
    portraits.settings { container := some "Gallery" } = .ok portraitSettings ∧
      let g := portraits.generate portraitSettings true portraitFiles
      g.container.types.map (·.accessors.assembly) = [["interface0", "interface1", "interface2"]] ∧
        Identifier.isIdentifier g.container.name.toList = true ∧
        (g.container.package = "" ∨
          Identifier.isQualified g.container.package.toList = true) ∧
        (∀ t ∈ g.container.types, t.Named "inter" ∧
          t.accessors.name = t.declaration.accessor ∧
          ∀ limits source name,
            Verify.accessors limits source t.accessors ≠ .error (.duplicateName name)) ∧
        ∀ f ∈ g.failures, ∀ name, f.cause ≠ .generate (.invariant (.duplicateName name)) := by
  have hsettings : portraits.settings { container := some "Gallery" } = .ok portraitSettings := by
    decide +kernel
  refine ⟨hsettings, ?_, portraits.generate_names _ hsettings true portraitFiles⟩
  rw [generate_eq]
  decide +kernel

end LiteralPack
