import LiteralPack.Proofs.EmittedNames

/-!
What the type names in a generated file stand for. The types of a container are in scope
throughout it and the container is in scope around them, so either can capture the first segment of
a name that was meant for something outside the file. The checks of a manifest keep the scopes
themselves unambiguous, and they keep a type from being taken for the interface of another one; they
do not keep it from being taken for its own.
-/

namespace LiteralPack

/-- What a dotted name stands for in a generated file. -/
inductive Denotation
  | container
  | type (name : Text)
  /-- Something inside the container or one of its types that the file does not declare. -/
  | undeclared
  | outside (path : List Text)
  deriving DecidableEq, Repr

def Declaration.interfacePath (d : Declaration) : List Text :=
  Identifier.dotSegments d.interface.toList

namespace Container

def typeNames (c : Container) : List Text := c.types.map (·.declaration.typeName.toList)

def fullName (c : Container) : List Text :=
  (if c.package.isEmpty then [] else Identifier.dotSegments c.package.toList) ++ [c.name.toList]

/-- What a name stands for behind that of the container. -/
def member (c : Container) : List Text → Denotation
  | [] => .container
  | [name] => if name ∈ c.typeNames then .type name else .undeclared
  | _ => .undeclared

/-- The innermost declaration of its first segment decides what a name stands for: a type of the
container, or else the container itself. Any other name is a full name. -/
def denotes (c : Container) : List Text → Denotation
  | [] => .outside []
  | first :: rest =>
    if first ∈ c.typeNames then c.member (first :: rest)
    else if first = c.name.toList then c.member rest
    else if c.fullName <+: first :: rest then c.member ((first :: rest).drop c.fullName.length)
    else .outside (first :: rest)

/-- The names of types that a generated file takes from outside its scopes. -/
def vocabulary : List Text := ["String".toList, "Override".toList]

/-- Every name in a generated file stands for what it was written for. -/
structure Resolves (c : Container) : Prop where
  interfaces : ∀ t ∈ c.types,
    c.denotes t.declaration.interfacePath = .outside t.declaration.interfacePath
  vocabulary : ∀ word ∈ vocabulary, c.denotes [word] = .outside [word]

variable {c : Container} {first name : Text} {path rest lead : List Text}

theorem member_ne_outside (c : Container) (rest path : List Text) :
    c.member rest ≠ .outside path := by
  unfold member
  split
  · exact nofun
  · split <;> exact nofun
  · exact nofun

theorem member_eq_type_iff : c.member rest = .type name ↔ rest = [name] ∧ name ∈ c.typeNames := by
  match rest with
  | [] => simp [member]
  | [s] =>
      by_cases hs : s ∈ c.typeNames
      · simp only [member, if_pos hs, Denotation.type.injEq, List.cons.injEq, and_true]
        constructor
        · rintro rfl
          exact ⟨rfl, hs⟩
        · exact And.left
      · simp only [member, if_neg hs, List.cons.injEq, and_true]
        constructor
        · exact nofun
        · rintro ⟨rfl, hname⟩
          exact absurd hname hs
  | _ :: _ :: _ => simp [member]

theorem member_eq_container_iff : c.member rest = .container ↔ rest = [] := by
  match rest with
  | [] => simp [member]
  | [s] => by_cases hs : s ∈ c.typeNames <;> simp [member, hs]
  | _ :: _ :: _ => simp [member]

/-- A name stays outside exactly if neither scope nor the full name of the container captures it. -/
theorem denotes_eq_outside_iff :
    c.denotes (first :: rest) = .outside (first :: rest) ↔
      first ∉ c.name.toList :: c.typeNames ∧ ¬ c.fullName <+: first :: rest := by
  rw [List.mem_cons, not_or, denotes]
  by_cases htype : first ∈ c.typeNames
  · rw [if_pos htype]
    simp [member_ne_outside, htype]
  · by_cases hname : first = c.name.toList
    · rw [if_neg htype, if_pos hname]
      simp [member_ne_outside, hname]
    · by_cases hfull : c.fullName <+: first :: rest
      · rw [if_neg htype, if_neg hname, if_pos hfull]
        simp [member_ne_outside, hfull]
      · simp [htype, hname, hfull]

/-- A type goes by the last segment of each of its names. -/
theorem getLast?_of_denotes_type (h : c.denotes path = .type name) :
    path.getLast? = some name := by
  cases path with
  | nil => cases h
  | cons first rest =>
      rw [denotes] at h
      split at h
      · rw [(member_eq_type_iff.1 h).1]
        rfl
      · split at h
        · rw [(member_eq_type_iff.1 h).1]
          rfl
        · split at h
          · have hdrop := (member_eq_type_iff.1 h).1
            rw [← List.take_append_drop c.fullName.length (first :: rest), hdrop,
              List.getLast?_concat]
          · cases h

theorem getLast?_of_denotes_container (h : c.denotes path = .container) :
    path.getLast? = some c.name.toList := by
  cases path with
  | nil => cases h
  | cons first rest =>
      rw [denotes] at h
      split at h
      · cases member_eq_container_iff.1 h
      · split at h
        next hname =>
          rw [member_eq_container_iff.1 h, hname]
          rfl
        · split at h
          next hfull =>
            -- Nothing is left behind the full name, so the name is the full name.
            have hdrop := member_eq_container_iff.1 h
            obtain ⟨behind, hbehind⟩ := hfull
            rw [← hbehind, List.drop_left] at hdrop
            rw [← hbehind, hdrop, List.append_nil, fullName, List.getLast?_concat]
          next => cases h

/-- A type implements itself where its interface is written as one of its own names. -/
theorem denotes_concat_eq_type_iff (hname : name ∈ c.typeNames) :
    c.denotes (first :: lead ++ [name]) = .type name ↔
      first ∉ c.typeNames ∧ (first = c.name.toList ∧ lead = [] ∨
        first ≠ c.name.toList ∧ first :: lead = c.fullName) := by
  rw [List.cons_append, denotes]
  by_cases htype : first ∈ c.typeNames
  · rw [if_pos htype]
    simp [member_eq_type_iff, htype]
  · by_cases hfirst : first = c.name.toList
    · subst hfirst
      rw [if_neg htype, if_pos rfl]
      simp [member_eq_type_iff, htype, hname]
    · rw [if_neg htype, if_neg hfirst]
      by_cases hfull : c.fullName <+: first :: (lead ++ [name])
      · rw [if_pos hfull]
        obtain ⟨behind, hbehind⟩ := hfull
        rw [← hbehind, List.drop_left, member_eq_type_iff]
        rw [← List.cons_append] at hbehind
        constructor
        · rintro ⟨rfl, -⟩
          exact ⟨htype, .inr ⟨hfirst, (List.append_cancel_right hbehind).symm⟩⟩
        · rintro ⟨-, ⟨h, -⟩ | ⟨-, h⟩⟩
          · exact absurd h hfirst
          · rw [← h] at hbehind
            exact ⟨List.append_cancel_left hbehind, hname⟩
      · rw [if_neg hfull]
        constructor
        · exact nofun
        · rintro ⟨-, ⟨h, -⟩ | ⟨-, h⟩⟩
          · exact absurd h hfirst
          · exact absurd ⟨[name], by rw [← h, List.cons_append]⟩ hfull

theorem name_mem_of_prefix_fullName (h : c.fullName <+: path) : c.name.toList ∈ path := by
  apply h.subset
  rw [fullName]
  exact List.mem_append_right _ List.mem_cons_self

theorem resolves_iff (hpath : ∀ t ∈ c.types, t.declaration.interfacePath ≠ []) :
    c.Resolves ↔
      (∀ t ∈ c.types, ∀ first ∈ t.declaration.interfacePath.head?,
        first ∉ c.name.toList :: c.typeNames ∧ ¬ c.fullName <+: t.declaration.interfacePath) ∧
      ∀ word ∈ vocabulary, word ∉ c.name.toList :: c.typeNames := by
  constructor
  · rintro ⟨hinterfaces, hvocabulary⟩
    refine ⟨fun t ht first hfirst => ?_, fun word hmem => ?_⟩
    · obtain ⟨rest, hrest⟩ := List.head?_eq_some_iff.1 hfirst
      have houtside := hinterfaces t ht
      rw [hrest] at houtside ⊢
      exact denotes_eq_outside_iff.1 houtside
    · exact (denotes_eq_outside_iff.1 (hvocabulary word hmem)).1
  · rintro ⟨hinterfaces, hvocabulary⟩
    refine ⟨fun t ht => ?_, fun word hmem => ?_⟩
    · obtain ⟨first, rest, hrest⟩ := List.exists_cons_of_ne_nil (hpath t ht)
      have hfree := hinterfaces t ht first (by rw [hrest]; rfl)
      rw [hrest] at hfree ⊢
      exact denotes_eq_outside_iff.2 hfree
    · have hfree := hvocabulary word hmem
      refine denotes_eq_outside_iff.2 ⟨hfree, fun hfull => hfree ?_⟩
      have hname := List.mem_singleton.1 (name_mem_of_prefix_fullName hfull)
      rw [hname]
      exact List.mem_cons_self

variable {t : EmbeddedType}

theorem typeName_mem (ht : t ∈ c.types) : t.declaration.typeName.toList ∈ c.typeNames :=
  List.mem_map_of_mem ht

theorem denotes_typeName (ht : t ∈ c.types) :
    c.denotes [t.declaration.typeName.toList] = .type t.declaration.typeName.toList := by
  have hmem := typeName_mem ht
  rw [denotes, if_pos hmem, member, if_pos hmem]

/-- What the checks of a manifest make sure of: each scope holds a name once, and a type takes its
name from behind the other segments of its interface. -/
structure Declared (c : Container) : Prop where
  nodup : (c.name.toList :: c.typeNames).Nodup
  path : ∀ t ∈ c.types, ∃ first lead,
    t.declaration.interfacePath = first :: lead ++ [t.declaration.typeName.toList]

namespace Declared

variable (h : c.Declared) (ht : t ∈ c.types)

include h

theorem denotes_name : c.denotes [c.name.toList] = .container := by
  have hname := (List.nodup_cons.1 h.nodup).1
  rw [denotes, if_neg hname, if_pos rfl]
  rfl

include ht

theorem getLast?_interfacePath :
    t.declaration.interfacePath.getLast? = some t.declaration.typeName.toList := by
  obtain ⟨first, lead, hpath⟩ := h.path t ht
  rw [hpath, List.getLast?_concat]

theorem eq_typeName_of_denotes (hname : c.denotes t.declaration.interfacePath = .type name) :
    name = t.declaration.typeName.toList := by
  have hlast := getLast?_of_denotes_type hname
  rw [h.getLast?_interfacePath ht] at hlast
  exact (Option.some_inj.1 hlast).symm

theorem denotes_ne_container : c.denotes t.declaration.interfacePath ≠ .container := by
  intro hcontainer
  have hlast := getLast?_of_denotes_container hcontainer
  rw [h.getLast?_interfacePath ht] at hlast
  have hmem := typeName_mem ht
  rw [Option.some_inj.1 hlast] at hmem
  exact (List.nodup_cons.1 h.nodup).1 hmem

end Declared

end Container

theorem Manifest.declared_generate (m : Manifest) (settings : Settings) (verify : Bool)
    (load : Loader) : (m.generate settings verify load).container.Declared := by
  constructor
  case nodup =>
    obtain ⟨hnodup, hfree⟩ := Declaration.nodup_accepted settings.container [] m.entries
    have hsublist := m.sublist_cutFiles settings load
    have hnames : (m.generate settings verify load).container.typeNames =
        ((values (m.cutFiles settings load)).map CutFile.declaration).map (·.typeName.toList) := by
      rw [generate_eq, Container.typeNames, List.map_map, List.map_map, List.map_map]
      rfl
    have hmap : (Declaration.accepted (Declaration.check settings.container m.entries)).map
        (·.typeName.toList) = ((Declaration.accepted
          (Declaration.check settings.container m.entries)).map Declaration.typeName).map
            String.toList := by
      rw [List.map_map]
      rfl
    rw [hnames, List.nodup_cons]
    constructor
    · intro hmem
      obtain ⟨d, hd, hname⟩ := List.mem_map.1 hmem
      exact (hfree d (hsublist.subset hd)).1 (String.toList_injective hname)
    · refine (hsublist.map _).nodup ?_
      rw [hmap]
      exact hnodup.map fun _ _ => String.toList_injective
  case path =>
    intro t ht
    obtain ⟨e, -, hdeclaration⟩ := Declaration.mem_claimAll (mem_generate_iff.1 ht).1
    obtain ⟨lead, hne, hpath⟩ := e.segments_of_declaration hdeclaration
    obtain ⟨first, lead, rfl⟩ := List.exists_cons_of_ne_nil hne
    exact ⟨first, lead, hpath⟩

/-- What a manifest's checks do for the names in the generated file. The scopes are unambiguous, and
an interface is never taken for the container or for the type of another interface. It can be taken
for the type that it belongs to, and all names stand for what they were written for exactly if
nothing in the file goes by the first segment of an interface, by the full name of the container in
front of one, or by a word of the vocabulary. -/
theorem Manifest.denotes_generate (m : Manifest) (settings : Settings) (verify : Bool)
    (load : Loader) :
    let c := (m.generate settings verify load).container
    (c.name.toList :: c.typeNames).Nodup ∧
      c.denotes [c.name.toList] = .container ∧
      (∀ t ∈ c.types,
        c.denotes [t.declaration.typeName.toList] = .type t.declaration.typeName.toList ∧
        c.denotes t.declaration.interfacePath ≠ .container ∧
        (∀ name, c.denotes t.declaration.interfacePath = .type name →
          name = t.declaration.typeName.toList) ∧
        ∃ first lead,
          t.declaration.interfacePath = first :: lead ++ [t.declaration.typeName.toList] ∧
          (c.denotes t.declaration.interfacePath = .type t.declaration.typeName.toList ↔
            first ∉ c.typeNames ∧ (first = c.name.toList ∧ lead = [] ∨
              first ≠ c.name.toList ∧ first :: lead = c.fullName))) ∧
      (c.Resolves ↔
        (∀ t ∈ c.types, ∀ first ∈ t.declaration.interfacePath.head?,
          first ∉ c.name.toList :: c.typeNames ∧
          ¬ c.fullName <+: t.declaration.interfacePath) ∧
        ∀ word ∈ Container.vocabulary, word ∉ c.name.toList :: c.typeNames) := by
  intro c
  have hdeclared : c.Declared := m.declared_generate settings verify load
  refine ⟨hdeclared.nodup, hdeclared.denotes_name, fun t ht => ?_, Container.resolves_iff ?_⟩
  · obtain ⟨first, lead, hpath⟩ := hdeclared.path t ht
    refine ⟨Container.denotes_typeName ht, hdeclared.denotes_ne_container ht,
      fun name => hdeclared.eq_typeName_of_denotes ht, first, lead, hpath, ?_⟩
    rw [hpath]
    exact Container.denotes_concat_eq_type_iff (Container.typeName_mem ht)
  · intro t ht
    obtain ⟨first, lead, hpath⟩ := hdeclared.path t ht
    rw [hpath]
    exact List.cons_ne_nil first _

/-- The interface is written as the full name of the type that is generated for it. -/
def ownName : Manifest where
  version := 1
  package := "demo"
  entries := [⟨"demo.Embedded.License", "String text()", ⟨"license.txt"⟩⟩]

def ownNameSettings : Settings where
  target := .java
  package := "demo"
  container := "Embedded"
  partPrefix := "__"
  limits := Limits.classFile

def licenseFiles : Loader := fun _ => .ok "MIT".toList

/-- A type that implements itself passes every check. -/
theorem Manifest.denotes_itself :
    ownName.settings {} = .ok ownNameSettings ∧
      let g := ownName.generate ownNameSettings true licenseFiles
      g.failures = [] ∧
        g.container.types.map (·.declaration.interfacePath) =
          [["demo".toList, "Embedded".toList, "License".toList]] ∧
        g.container.denotes ["demo".toList, "Embedded".toList, "License".toList] =
          .type "License".toList := by
  refine ⟨by decide +kernel, ?_⟩
  rw [generate_eq]
  decide +kernel

end LiteralPack
