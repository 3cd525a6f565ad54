import LiteralPack.Proofs.Accounting
import LiteralPack.Proofs.Names
import LiteralPack.Proofs.Rendering

/-!
What generated source means. Every type of a generated container comes from an entry of the
manifest and holds the accessors of the text that was loaded for it, so its public accessor, read
back from the source file and evaluated, returns that text.
-/

namespace LiteralPack

open Source

/-! ### Evaluation of an outline -/

theorem mapM_eq_some_of_forall₂ {α β : Type} {f : α → Option β} {as : List α} {bs : List β}
    (h : List.Forall₂ (fun a b => f a = some b) as bs) : as.mapM f = some bs := by
  induction h with
  | nil => rfl
  | cons hhead _ ih => rw [List.mapM_cons, hhead, ih]; rfl

namespace EmbeddedType

variable {t : EmbeddedType} {name : String} {parts : List Part} {texts : List Text}

theorem filter_method_eq_nil (h : name ∉ parts.map Part.name) :
    (parts.map Part.method).filter (fun m => !m.isPublic && m.name == name.toList) = [] := by
  rw [List.filter_eq_nil_iff]
  intro m hm
  obtain ⟨p, hp, rfl⟩ := List.mem_map.1 hm
  have hname : p.name ≠ name := fun hname => h (hname ▸ List.mem_map_of_mem hp)
  simpa [Part.method, String.toList_inj] using hname

theorem constant?_outline (hset : t.accessors = .chunked name parts)
    (hnodup : (parts.map Part.name).Nodup) {p : Part} (hp : p ∈ parts) {s : Text}
    (hdecode : Literal.decode p.literal.body = .ok s) :
    t.outline.constant? p.name.toList = some s := by
  -- Names are distinct, so the part itself is all that its name selects.
  have hfilter : t.outline.methods.filter (fun m => !m.isPublic && m.name == p.name.toList) =
      [p.method] := by
    obtain ⟨before, behind, rfl⟩ := List.append_of_mem hp
    rw [List.map_append, List.map_cons, List.nodup_append, List.nodup_cons] at hnodup
    obtain ⟨-, ⟨hbehind, -⟩, hdistinct⟩ := hnodup
    have hbefore : p.name ∉ before.map Part.name := fun hmem =>
      hdistinct p.name hmem p.name List.mem_cons_self rfl
    rw [outline, hset, Accessors.methods]
    simp only [List.map_append, List.map_cons, List.filter_append, List.filter_cons,
      filter_method_eq_nil hbefore, filter_method_eq_nil hbehind]
    simp [Part.method]
  rw [TypeOutline.constant?, hfilter]
  simp only [Part.method, hdecode]
  rfl

theorem evaluate?_outline (hnodup : t.accessors.assembly.Nodup)
    (hdecoded : List.Forall₂ (fun l s => Literal.decode l.body = .ok s) t.accessors.literals
      texts) : t.outline.evaluate? = some texts.flatten := by
  cases hset : t.accessors with
  | direct name l =>
      rw [hset, Accessors.literals] at hdecoded
      obtain ⟨s, rest, hdecode, hrest, rfl⟩ := List.forall₂_cons_left_iff.1 hdecoded
      obtain rfl := List.forall₂_nil_left_iff.1 hrest
      have hpublic : t.outline.methods.filter (·.isPublic) =
          [⟨true, name.toList, .literal l.body⟩] := by
        rw [outline, hset, Accessors.methods]
        rfl
      simp only [TypeOutline.evaluate?, hpublic, TypeOutline.value?, hdecode]
      simp [Except.toOption]
  | chunked name parts =>
      rw [hset, Accessors.literals, List.forall₂_map_left_iff] at hdecoded
      rw [hset, Accessors.assembly] at hnodup
      have hconstants : (parts.map (·.name.toList)).mapM t.outline.constant? = some texts := by
        apply mapM_eq_some_of_forall₂
        rw [List.forall₂_map_left_iff]
        have hmember := (List.forall₂_and_left parts texts).2 ⟨fun _ hp => hp, hdecoded⟩
        exact hmember.imp fun p s hs => constant?_outline hset hnodup hs.1 hs.2
      have hpublic : t.outline.methods.filter (·.isPublic) =
          [⟨true, name.toList, .calls (parts.map (·.name.toList))⟩] := by
        have hprivate : (parts.map Part.method).filter (·.isPublic) = [] := by
          rw [List.filter_eq_nil_iff, List.forall_mem_map]
          exact fun p _ => Bool.false_ne_true
        rw [outline, hset, Accessors.methods, List.filter_append, hprivate]
        rfl
      simp only [TypeOutline.evaluate?, hpublic, TypeOutline.value?, hconstants, Option.map_some]

end EmbeddedType

/-! ### Where the types of a container come from -/

theorem Declaration.mem_claimAll {container : String} {taken : List String} {entries : List Entry}
    {d : Declaration} (h : .ok d ∈ claimAll container taken entries) :
    ∃ e ∈ entries, e.declaration = .ok d := by
  obtain ⟨i, hi⟩ := List.mem_iff_getElem?.1 h
  rw [claimAll_getElem?, Option.map_eq_some_iff] at hi
  obtain ⟨e, he, hclaim⟩ := hi
  exact ⟨e, List.mem_of_getElem? he, Entry.declaration_of_claim (mapError_eq_ok_iff.1 hclaim)⟩

/-- The types of a container are those of the accepted declarations whose file could be loaded and
encoded. -/
theorem Manifest.mem_generate_iff {m : Manifest} {settings : Settings} {verify : Bool}
    {load : Loader} {t : EmbeddedType} :
    t ∈ (m.generate settings verify load).container.types ↔
      .ok t.declaration ∈ Declaration.check settings.container m.entries ∧
        ∃ text, load t.declaration.path = .ok text ∧
          settings.encoder.encode t.declaration.accessor text = .ok t.accessors := by
  simp only [generate_eq, List.mem_map, mem_values_cutFiles]
  constructor
  · rintro ⟨_, ⟨c, ⟨hchecked, hloaded, hcut⟩, rfl⟩, rfl⟩
    exact ⟨hchecked, c.text, hloaded, settings.encoder.encode_of_cut _ hcut⟩
  · rintro ⟨hchecked, text, hloaded, hencode⟩
    obtain ⟨fragments, hcut, hset⟩ := Encoder.exists_cut_of_encode hencode
    exact ⟨_, ⟨⟨t.declaration, text, fragments⟩, ⟨hchecked, hloaded, hcut⟩, rfl⟩,
      congrArg (EmbeddedType.mk t.declaration) hset.symm⟩

/-! ### Generated containers -/

theorem Literal.newline_not_mem_escape (target : Target) (t : Text) : '\n' ∉ escape target t :=
  fun hmem => absurd (printable_escape target t '\n' hmem) (by decide)

theorem Accessors.exists_eq_partName {partPrefix accessor : String} {literals : List Literal}
    {name : String} (h : name ∈ (assemble partPrefix accessor literals).assembly) :
    ∃ index, name = partName partPrefix accessor index := by
  unfold assemble at h
  split at h
  · exact absurd h List.not_mem_nil
  · rw [assembly, map_name_parts] at h
    obtain ⟨index, -, rfl⟩ := List.mem_map.1 h
    exact ⟨index, rfl⟩

theorem Encoder.plain_of_encode {e : Encoder} {accessor : String} {t : Text} {set : Accessors}
    (haccessor : Identifier.isIdentifier accessor.toList = true)
    (hlead : isPartPrefix e.partPrefix.toList = true) (h : e.encode accessor t = .ok set) :
    set.Plain := by
  obtain ⟨texts, hcut, rfl⟩ := encode_eq_ok_iff.1 h
  have haccepted := hcut.accepted e.target e.partPrefix accessor
  constructor
  case name =>
    rw [Accessors.name_assemble]
    exact Identifier.bare_of_isIdentifier haccessor
  case assembly =>
    intro name hname
    obtain ⟨index, rfl⟩ := Accessors.exists_eq_partName hname
    exact bare_partName hlead haccessor index
  case bodies =>
    rw [Accessors.literals_assemble, List.forall_mem_map]
    exact fun f _ => Literal.newline_not_mem_escape e.target f.text
  case literals_ne_nil => exact haccepted.literals_ne_nil

theorem Encoder.evaluate?_of_encode {e : Encoder} {t : EmbeddedType} {text : Text}
    (h : e.encode t.declaration.accessor text = .ok t.accessors) :
    t.accessors.name = t.declaration.accessor ∧ t.outline.evaluate? = some text := by
  obtain ⟨texts, hcut, hset⟩ := encode_eq_ok_iff.1 h
  have haccepted := hcut.accepted e.target e.partPrefix t.declaration.accessor
  rw [← hset] at haccepted
  have hnodup := (List.nodup_cons.1 haccepted.nodup_names).2
  rw [← haccepted.flatten_eq]
  exact ⟨by rw [hset, Accessors.name_assemble], t.evaluate?_outline hnodup haccepted.decoded⟩

theorem Manifest.plain_generate {m : Manifest} {overrides : Overrides} {settings : Settings}
    (h : m.settings overrides = .ok settings) (verify : Bool) (load : Loader) :
    (m.generate settings verify load).container.Plain := by
  obtain ⟨hcontainer, hpackage, hlead⟩ := names_of_settings h
  constructor
  case package =>
    rw [isPackage, Bool.or_eq_true] at hpackage
    obtain hempty | hqualified := hpackage
    · have hnone : settings.package = "" := by simpa using hempty
      exact .inl hnone
    · exact .inr (Identifier.bare_of_isQualified hqualified)
  case name => exact Identifier.bare_of_isIdentifier hcontainer
  case types =>
    intro t ht
    obtain ⟨hchecked, text, -, hencode⟩ := mem_generate_iff.1 ht
    obtain ⟨e, -, hdeclaration⟩ := Declaration.mem_claimAll hchecked
    obtain ⟨htypeName, hinterface, haccessor⟩ := e.names_of_declaration hdeclaration
    exact ⟨Identifier.bare_of_isIdentifier htypeName, Identifier.bare_of_isQualified hinterface,
      settings.encoder.plain_of_encode haccessor hlead hencode⟩

/-- A generated file is read back as the container it was rendered from, every public accessor in
it returns the text that was loaded for its declaration, and no declaration is lost whose file
could be loaded and cut. -/
theorem Manifest.read_render_generate (m : Manifest) (overrides : Overrides) {settings : Settings}
    (h : m.settings overrides = .ok settings) (verify : Bool) (load : Loader) :
    let c := (m.generate settings verify load).container
    Source.read settings.target (c.render settings.target) =
        some ⟨settings.package.toList, settings.container.toList,
          c.types.map EmbeddedType.outline⟩ ∧
      (∀ t ∈ c.types, ∃ e ∈ m.entries, ∃ text,
        e.declaration = .ok t.declaration ∧
        t.accessors.name = t.declaration.accessor ∧
        load t.declaration.path = .ok text ∧
        t.outline.evaluate? = some text) ∧
      ∀ d, .ok d ∈ Declaration.check settings.container m.entries →
        ∀ text fragments, load d.path = .ok text → settings.limits.cut text = .ok fragments →
          ∃ t ∈ c.types, t.declaration = d := by
  refine ⟨Container.read_render settings.target (plain_generate h verify load), ?_, ?_⟩
  · intro t ht
    obtain ⟨hchecked, text, hloaded, hencode⟩ := mem_generate_iff.1 ht
    obtain ⟨e, he, hdeclaration⟩ := Declaration.mem_claimAll hchecked
    obtain ⟨hname, hevaluate⟩ := Encoder.evaluate?_of_encode hencode
    exact ⟨e, he, text, hdeclaration, hname, hloaded, hevaluate⟩
  · intro d hd text fragments hloaded hfragments
    have hencode : settings.encoder.encode d.accessor text =
        .ok (Accessors.assemble settings.partPrefix d.accessor
          (fragments.map (Fragment.literal settings.target))) :=
      congrArg (Except.map _) hfragments
    exact ⟨⟨d, _⟩, mem_generate_iff.2 ⟨hd, text, hloaded, hencode⟩, rfl⟩

def prices : Manifest where
  version := 1
  target := .kotlin
  package := "demo.shop"
  caps := Limits.tight.toCaps
  entries := [⟨"demo.Price", "fun text(): String", ⟨"price.txt"⟩⟩,
    ⟨"demo.Unit", "String text()", ⟨"unit.txt"⟩⟩]

def priceFiles : Loader := fun path =>
  if path = ⟨"price.txt"⟩ then .ok "$5 \"now\"".toList else .ok "€".toList

def priceSettings : Settings where
  target := .kotlin
  package := "demo.shop"
  container := "Embedded"
  partPrefix := "__"
  limits := Limits.tight

theorem Manifest.read_render_generate_prices :
    prices.settings {} = .ok priceSettings ∧
      let c := (prices.generate priceSettings false priceFiles).container
      c.types.map (·.accessors.assembly) = [["__text0", "__text1", "__text2"], []] ∧
        Source.read .kotlin (c.render .kotlin) =
          some ⟨"demo.shop".toList, "Embedded".toList, c.types.map EmbeddedType.outline⟩ ∧
        (∀ t ∈ c.types, ∃ e ∈ prices.entries, ∃ text,
          e.declaration = .ok t.declaration ∧
          t.accessors.name = t.declaration.accessor ∧
          priceFiles t.declaration.path = .ok text ∧
          t.outline.evaluate? = some text) ∧
        ∀ d, .ok d ∈ Declaration.check "Embedded" prices.entries →
          ∀ text fragments, priceFiles d.path = .ok text → Limits.tight.cut text = .ok fragments →
            ∃ t ∈ c.types, t.declaration = d := by
  have hsettings : prices.settings {} = .ok priceSettings := by decide +kernel
  exact ⟨hsettings, by decide +kernel,
    prices.read_render_generate {} hsettings false priceFiles⟩

end LiteralPack
