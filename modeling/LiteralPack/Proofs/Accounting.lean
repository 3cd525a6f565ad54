import LiteralPack.Proofs.Outcomes
import LiteralPack.Run

/-!
Every entry of a manifest is accounted for once. An entry is judged by the names that the entries
before it have claimed, by what loading its file gives and by the cut of the text, and its fate
stands in the place of the entry; types, summaries and failures are what these fates say, in order.
-/

namespace LiteralPack

namespace Declaration

/-- The type names that entries claim, latest first. -/
def claimed (container : String) (entries : List Entry) : List String :=
  ((accepted (check container entries)).map typeName).reverse

section Steps

variable {container : String} {taken : List String} {e : Entry}

theorem claimAll_cons_ok {d : Declaration} (h : e.claim container taken = .ok d)
    (entries : List Entry) :
    claimAll container taken (e :: entries) =
      .ok d :: claimAll container (d.typeName :: taken) entries := by
  rw [claimAll, h]

theorem claimAll_cons_error {cause : ShapeError} (h : e.claim container taken = .error cause)
    (entries : List Entry) :
    claimAll container taken (e :: entries) =
      .error ⟨e.interface, cause⟩ :: claimAll container taken entries := by
  rw [claimAll, h]

theorem accepted_cons_ok (d : Declaration) (results : List (Except Rejection Declaration)) :
    accepted (.ok d :: results) = d :: accepted results := rfl

theorem accepted_cons_error (r : Rejection) (results : List (Except Rejection Declaration)) :
    accepted (.error r :: results) = accepted results := rfl

end Steps

/-- Each result depends on the entry in its place and on the names claimed before it. -/
theorem claimAll_getElem? (container : String) (taken : List String) (entries : List Entry)
    (i : Nat) :
    (claimAll container taken entries)[i]? = entries[i]?.map fun e =>
      (e.claim container
        (((accepted (claimAll container taken (entries.take i))).map typeName).reverse ++
          taken)).mapError fun cause => ⟨e.interface, cause⟩ := by
  induction entries generalizing taken i with
  | nil => rfl
  | cons e entries ih =>
      cases i with
      | zero =>
          have hnone : accepted (claimAll container taken []) = [] := rfl
          rw [List.take_zero, hnone, claimAll]
          simp only [List.map_nil, List.reverse_nil, List.nil_append, List.getElem?_cons_zero,
            Option.map_some]
          cases e.claim container taken <;> rfl
      | succ i =>
          rw [List.take_succ_cons]
          cases hclaim : e.claim container taken with
          | ok d =>
              rw [claimAll_cons_ok hclaim, claimAll_cons_ok hclaim, List.getElem?_cons_succ,
                List.getElem?_cons_succ, ih, accepted_cons_ok, List.map_cons, List.reverse_cons,
                List.append_assoc, List.singleton_append]
          | error cause =>
              rw [claimAll_cons_error hclaim, claimAll_cons_error hclaim,
                List.getElem?_cons_succ, List.getElem?_cons_succ, ih, accepted_cons_error]

theorem check_getElem? (container : String) (entries : List Entry) (i : Nat) :
    (check container entries)[i]? = entries[i]?.map fun e =>
      (e.claim container (claimed container (entries.take i))).mapError
        fun cause => ⟨e.interface, cause⟩ := by
  rw [check, claimAll_getElem?, List.append_nil]
  rfl

end Declaration

theorem Entry.claim_eq_ok_iff {e : Entry} {container : String} {taken : List String}
    {d : Declaration} : e.claim container taken = .ok d ↔
      e.declaration = .ok d ∧ d.typeName ≠ container ∧ d.typeName ∉ taken := by
  simp only [claim, bind_eq_ok_iff, throw_or_eq_ok_iff]
  constructor
  · rintro ⟨d', hd, hcontainer, htaken, hreturn⟩
    cases hreturn
    exact ⟨hd, hcontainer, by simpa using htaken⟩
  · rintro ⟨hd, hcontainer, htaken⟩
    exact ⟨d, hd, hcontainer, by simpa using htaken, rfl⟩

theorem Entry.declaration_of_claim {e : Entry} {container : String} {taken : List String}
    {d : Declaration} (h : e.claim container taken = .ok d) : e.declaration = .ok d :=
  (claim_eq_ok_iff.1 h).1

/-- Whatever is accepted has a type name of its own, which is neither taken nor the container's. -/
theorem Declaration.nodup_accepted (container : String) (taken : List String)
    (entries : List Entry) :
    ((accepted (claimAll container taken entries)).map typeName).Nodup ∧
      ∀ d ∈ accepted (claimAll container taken entries),
        d.typeName ≠ container ∧ d.typeName ∉ taken := by
  induction entries generalizing taken with
  | nil => exact ⟨List.nodup_nil, nofun⟩
  | cons e entries ih =>
      cases hclaim : e.claim container taken with
      | error cause =>
          rw [claimAll_cons_error hclaim, accepted_cons_error]
          exact ih taken
      | ok d =>
          obtain ⟨hnodup, hrest⟩ := ih (d.typeName :: taken)
          rw [claimAll_cons_ok hclaim, accepted_cons_ok, List.map_cons, List.nodup_cons,
            List.forall_mem_cons]
          refine ⟨⟨fun hmem => ?_, hnodup⟩, (Entry.claim_eq_ok_iff.1 hclaim).2, fun d' hd' => ?_⟩
          · obtain ⟨d', hd', hname⟩ := List.mem_map.1 hmem
            exact (hrest d' hd').2 (hname ▸ List.mem_cons_self)
          · obtain ⟨hcontainer, htaken⟩ := hrest d' hd'
            exact ⟨hcontainer, fun hmem => htaken (List.mem_cons_of_mem _ hmem)⟩

theorem Entry.interface_of_claim {e : Entry} {container : String} {taken : List String}
    {d : Declaration} (h : e.claim container taken = .ok d) :
    d.interface = String.ofList (Text.trim e.interface.toList) := by
  have hd := declaration_of_claim h
  simp only [declaration, bind_eq_ok_iff, throw_or_eq_ok_iff] at hd
  obtain ⟨-, -, _, -, -, hreturn⟩ := hd
  cases hreturn
  rfl

/-- What becomes of an entry that follows entries which have claimed the names `taken`. Whatever
`good` asks for holds of what its file was made into. -/
inductive Entry.Fate (settings : Settings) (load : Loader) (taken : List String) (e : Entry)
    {α : Type} (good : CutFile → α → Prop) : Except Failure α → Prop
  | rejected {cause : ShapeError} (claim : e.claim settings.container taken = .error cause) :
      Fate settings load taken e good (.error ⟨e.interface, .shape cause⟩)
  | unloaded {d : Declaration} {cause : LoadError}
      (claim : e.claim settings.container taken = .ok d) (loaded : load d.path = .error cause) :
      Fate settings load taken e good
        (.error ⟨String.ofList (Text.trim e.interface.toList), .generate (.load cause)⟩)
  | tooWide {d : Declaration} {t : Text} {cause : TooWide}
      (claim : e.claim settings.container taken = .ok d) (loaded : load d.path = .ok t)
      (cut : settings.limits.cut t = .error cause) :
      Fate settings load taken e good
        (.error ⟨String.ofList (Text.trim e.interface.toList), .generate (.tooWide cause)⟩)
  | made {c : CutFile} {a : α} (claim : e.claim settings.container taken = .ok c.declaration)
      (loaded : load c.declaration.path = .ok c.text)
      (cut : settings.limits.cut c.text = .ok c.fragments) (holds : good c a) :
      Fate settings load taken e good (.ok a)

namespace Entry.Fate

variable {α β : Type} {settings : Settings} {load : Loader} {taken : List String} {e : Entry}
  {good : CutFile → α → Prop} {good' : CutFile → β → Prop} {r : Except Failure α}

theorem map (h : e.Fate settings load taken good r) (f : α → β)
    (hf : ∀ c a, settings.limits.cut c.text = .ok c.fragments → good c a → good' c (f a)) :
    e.Fate settings load taken good' (r.map f) := by
  cases h with
  | rejected claim => exact .rejected claim
  | unloaded claim loaded => exact .unloaded claim loaded
  | tooWide claim loaded cut => exact .tooWide claim loaded cut
  | made claim loaded cut holds => exact .made claim loaded cut (hf _ _ cut holds)

theorem cutFile (settings : Settings) (load : Loader) (taken : List String) (e : Entry) :
    e.Fate settings load taken (fun c c' => c' = c) (Loaded.cutFile settings.limits
      (((e.claim settings.container taken).mapError fun cause => ⟨e.interface, cause⟩).map
        fun d => (d, load d.path))) := by
  cases hclaim : e.claim settings.container taken with
  | error cause => exact .rejected hclaim
  | ok d =>
      change Fate settings load taken e _ ((d.cutFile settings.limits (load d.path)).mapError
        fun cause => (⟨d.interface, .generate cause⟩ : Failure))
      rw [Entry.interface_of_claim hclaim]
      cases hloaded : load d.path with
      | error cause => exact .unloaded hclaim hloaded
      | ok t =>
          simp only [Declaration.cutFile, mapError_ok, ok_bind]
          cases hcut : settings.limits.cut t with
          | error cause => exact .tooWide hclaim hloaded hcut
          | ok fs => exact .made (c := ⟨d, t, fs⟩) hclaim hloaded hcut rfl

end Entry.Fate

namespace Manifest

variable {α β : Type} {m : Manifest} {settings : Settings} {load : Loader}
  {good : CutFile → α → Prop} {good' : CutFile → β → Prop} {results : List (Except Failure α)}

/-- One result per entry, each of them the fate of the entry in its place. -/
structure Fates (m : Manifest) (settings : Settings) (load : Loader) (good : CutFile → α → Prop)
    (results : List (Except Failure α)) : Prop where
  length_eq : results.length = m.entries.length
  fate : ∀ (i : Nat) (e : Entry), m.entries[i]? = some e → ∃ r, results[i]? = some r ∧
    e.Fate settings load (Declaration.claimed settings.container (m.entries.take i)) good r

namespace Fates

theorem map (h : m.Fates settings load good results) (f : α → β)
    (hf : ∀ c a, settings.limits.cut c.text = .ok c.fragments → good c a → good' c (f a)) :
    m.Fates settings load good' (results.map (Except.map f)) := by
  refine ⟨by rw [List.length_map, h.length_eq], fun i e he => ?_⟩
  obtain ⟨r, hr, hfate⟩ := h.fate i e he
  exact ⟨r.map f, by rw [List.getElem?_map, hr]; rfl, hfate.map f hf⟩

theorem exists_of_mem (h : m.Fates settings load good results) {r : Except Failure α}
    (hr : r ∈ results) : ∃ e taken, Entry.Fate settings load taken e good r := by
  obtain ⟨i, hi⟩ := List.mem_iff_getElem?.1 hr
  have hlt : i < m.entries.length := h.length_eq ▸ (List.getElem?_eq_some_iff.1 hi).1
  obtain ⟨r', hr', hfate⟩ := h.fate i _ (List.getElem?_eq_getElem hlt)
  obtain rfl := Option.some_inj.1 (hi.symm.trans hr')
  exact ⟨_, _, hfate⟩

theorem forall₂ (h : m.Fates settings load good results) :
    List.Forall₂ (fun e r => ∃ taken, e.Fate settings load taken good r) m.entries results := by
  refine List.forall₂_iff_get.2 ⟨h.length_eq.symm, fun i hi hi' => ?_⟩
  obtain ⟨r, hr, hfate⟩ := h.fate i _ (List.getElem?_eq_getElem hi)
  obtain ⟨_, rfl⟩ := List.getElem?_eq_some_iff.1 hr
  exact ⟨_, hfate⟩

end Fates

/-- The entries of a manifest with their files loaded and cut. -/
def cutFiles (m : Manifest) (settings : Settings) (load : Loader) : List (Except Failure CutFile) :=
  (load.loadAll (Declaration.check settings.container m.entries)).map
    (Loaded.cutFile settings.limits)

theorem fates_cutFiles (m : Manifest) (settings : Settings) (load : Loader) :
    m.Fates settings load (fun c c' => c' = c) (m.cutFiles settings load) := by
  constructor
  case length_eq =>
    rw [cutFiles, Loader.loadAll, List.length_map, List.length_map, Declaration.check,
      Declaration.length_claimAll]
  case fate =>
    intro i e he
    refine ⟨_, ?_, Entry.Fate.cutFile settings load _ e⟩
    rw [cutFiles, Loader.loadAll, List.getElem?_map, List.getElem?_map, Declaration.check_getElem?,
      he]
    rfl

/-- An entry fails for its shape or for its file, and never for what the library made of it. -/
theorem ne_invariant_of_mem_faults {f : Failure} (h : f ∈ faults (m.cutFiles settings load))
    (violation : Violation) : f.cause ≠ .generate (.invariant violation) := by
  obtain ⟨e, taken, hfate⟩ := (m.fates_cutFiles settings load).exists_of_mem (mem_faults.1 h)
  cases hfate <;> simp

theorem mem_values_cutFiles {c : CutFile} :
    c ∈ values (m.cutFiles settings load) ↔
      .ok c.declaration ∈ Declaration.check settings.container m.entries ∧
        load c.declaration.path = .ok c.text ∧
        settings.limits.cut c.text = .ok c.fragments := by
  simp only [mem_values, cutFiles, Loader.loadAll, List.map_map, List.mem_map]
  constructor
  · rintro ⟨checked, hchecked, hcut⟩
    cases checked with
    | error r => cases hcut
    | ok d =>
        obtain ⟨rfl, hloaded, hfragments⟩ :=
          Declaration.cutFile_eq_ok_iff.1 (mapError_eq_ok_iff.1 hcut)
        exact ⟨hchecked, hloaded, hfragments⟩
  · rintro ⟨hchecked, hloaded, hcut⟩
    exact ⟨_, hchecked, mapError_eq_ok_iff.2
      (Declaration.cutFile_eq_ok_iff.2 ⟨rfl, hloaded, hcut⟩)⟩

theorem generate_eq (m : Manifest) (settings : Settings) (verify : Bool) (load : Loader) :
    m.generate settings verify load =
      let cuts := m.cutFiles settings load
      let types := (values cuts).map (CutFile.generated settings.encoder)
      { container := ⟨settings.package, settings.container, types.map (·.type)⟩
        summaries := types.map (·.summary)
        failures := (faults cuts).filter Failure.isShape ++ (faults cuts).filter (!·.isShape) } :=
  Generation.ofLoaded_eq verify _ settings

/-- The files that are cut are those of accepted declarations, in their order. -/
theorem sublist_cutFiles (m : Manifest) (settings : Settings) (load : Loader) :
    ((values (m.cutFiles settings load)).map CutFile.declaration).Sublist
      (Declaration.accepted (Declaration.check settings.container m.entries)) := by
  rw [cutFiles]
  induction Declaration.check settings.container m.entries with
  | nil => exact .slnil
  | cons checked rest ih =>
      cases checked with
      | error r => exact ih
      | ok d =>
          have hloaded : load.loadAll (.ok d :: rest) =
              .ok (d, load d.path) :: load.loadAll rest := rfl
          rw [hloaded, List.map_cons]
          cases hcut : Loaded.cutFile settings.limits (.ok (d, load d.path)) with
          | error f => exact ih.cons d
          | ok c =>
              obtain ⟨rfl, -⟩ := Declaration.cutFile_eq_ok_iff.1 (mapError_eq_ok_iff.1 hcut)
              exact ih.cons_cons c.declaration

theorem Fates.declarations_of_faults_eq_nil (h : m.Fates settings load good results)
    (hnone : faults results = []) :
    List.Forall₂ (fun e a => ∃ c, e.declaration = .ok c.declaration ∧ good c a) m.entries
      (values results) := by
  have hfates := h.forall₂
  clear h
  generalize m.entries = entries at hfates
  induction hfates with
  | nil => exact .nil
  | @cons e r entries results hfate _ ih =>
      obtain ⟨taken, hfate⟩ := hfate
      cases hfate with
      | rejected => cases hnone
      | unloaded => cases hnone
      | tooWide => cases hnone
      | made claim _ _ holds =>
          exact .cons ⟨_, Entry.declaration_of_claim claim, holds⟩ (ih hnone)

end Manifest

/-- A summary says of a type and of the text behind it what they are. -/
structure Summary.Describes (s : Summary) (t : EmbeddedType) (text : Text) : Prop where
  typeName_eq : s.typeName = t.declaration.typeName
  accessor_eq : s.accessor = t.declaration.accessor
  fragments_eq : s.fragments = t.accessors.count
  chunked_eq : s.chunked = t.accessors.isChunked
  chars_eq : s.chars = text.length
  bytes_eq : s.bytes = text.utf8Size

theorem CutFile.describes (e : Encoder) (c : CutFile) :
    (c.generated e).summary.Describes (c.generated e).type c.text :=
  ⟨rfl, rfl, rfl, rfl, rfl, rfl⟩

namespace Manifest

variable {m : Manifest} {settings : Settings} {verify : Bool} {load : Loader}

theorem mem_failures_generate {f : Failure} :
    f ∈ (m.generate settings verify load).failures ↔ f ∈ faults (m.cutFiles settings load) := by
  rw [generate_eq, List.mem_append, List.mem_filter, List.mem_filter]
  cases f.isShape <;> simp

theorem length_failures_generate (m : Manifest) (settings : Settings) (verify : Bool)
    (load : Loader) :
    (m.generate settings verify load).failures.length =
      (faults (m.cutFiles settings load)).length := by
  rw [generate_eq, List.length_append]
  exact (List.length_eq_length_filter_add Failure.isShape).symm

theorem length_types_generate (m : Manifest) (settings : Settings) (verify : Bool)
    (load : Loader) : (m.generate settings verify load).container.types.length =
    (values (m.cutFiles settings load)).length := by
  rw [generate_eq, List.length_map, List.length_map]

theorem length_types_add_length_failures (m : Manifest) (settings : Settings) (verify : Bool)
    (load : Loader) :
    (m.generate settings verify load).container.types.length +
      (m.generate settings verify load).failures.length = m.entries.length := by
  rw [length_types_generate, length_failures_generate, length_values_add_length_faults,
    (m.fates_cutFiles settings load).length_eq]

theorem declarations_of_failures_eq_nil (h : (m.generate settings verify load).failures = []) :
    List.Forall₂ (fun e t => e.declaration = .ok t.declaration) m.entries
      (m.generate settings verify load).container.types := by
  have hnone : faults (m.cutFiles settings load) = [] := by
    rw [← List.length_eq_zero_iff, ← m.length_failures_generate settings verify, h]
    rfl
  have hall := (m.fates_cutFiles settings load).declarations_of_faults_eq_nil hnone
  rw [generate_eq, List.forall₂_map_right_iff, List.forall₂_map_right_iff]
  refine hall.imp fun e c hc => ?_
  obtain ⟨_, hdeclaration, rfl⟩ := hc
  exact hdeclaration

/-- Every entry is accounted for once. There is one outcome per entry, in the entry's place and
under its name; the container, the summaries and the failures list these outcomes in order, with
the entries of the wrong shape ahead of those whose file was of no use; and nothing failed exactly
if the container has a type for every entry. -/
theorem generate_accounts (m : Manifest) (settings : Settings) (verify : Bool) (load : Loader) :
    let g := m.generate settings verify load
    ∃ outcomes : List (Except Failure GeneratedType),
      m.Fates settings load (fun c t =>
        t.type.declaration = c.declaration ∧
        settings.encoder.encode c.declaration.accessor c.text = .ok t.type.accessors ∧
        t.summary.Describes t.type c.text) outcomes ∧
      g.container.types = (values outcomes).map (·.type) ∧
      g.summaries = (values outcomes).map (·.summary) ∧
      g.failures = (faults outcomes).filter Failure.isShape ++
        (faults outcomes).filter (!·.isShape) ∧
      g.container.types.length + g.failures.length = m.entries.length ∧
      List.Forall₂ (fun s t => ∃ text, load t.declaration.path = .ok text ∧ s.Describes t text)
        g.summaries g.container.types ∧
      ∀ output, Report.isSuccess ⟨output, settings.target, g.summaries, g.failures⟩ = true ↔
        List.Forall₂ (fun e t => e.declaration = .ok t.declaration) m.entries
          g.container.types := by
  refine ⟨(m.cutFiles settings load).map (Except.map (CutFile.generated settings.encoder)),
    ?fates, ?types, ?summaries, ?failures,
    m.length_types_add_length_failures settings verify load, ?described, ?success⟩
  case fates =>
    refine (m.fates_cutFiles settings load).map _ fun c c' hcut hc => ?_
    subst hc
    exact ⟨rfl, settings.encoder.encode_of_cut _ hcut, c'.describes settings.encoder⟩
  case types => rw [generate_eq, values_map]
  case summaries => rw [generate_eq, values_map]
  case failures => rw [generate_eq, faults_map]
  case described =>
    simp only [generate_eq, List.forall₂_map_left_iff, List.forall₂_map_right_iff,
      List.forall₂_same]
    exact fun c hc => ⟨c.text, (mem_values_cutFiles.1 hc).2.1, c.describes settings.encoder⟩
  case success =>
    intro output
    change (m.generate settings verify load).failures.isEmpty = true ↔ _
    rw [List.isEmpty_iff]
    constructor
    · exact declarations_of_failures_eq_nil
    · intro hall
      have hlength := m.length_types_add_length_failures settings verify load
      rw [hall.length_eq] at hlength
      exact List.eq_nil_of_length_eq_zero (by omega)

end Manifest

end LiteralPack
