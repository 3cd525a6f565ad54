import LiteralPack.Plan
import LiteralPack.Proofs.Agreement
import LiteralPack.Proofs.Encoded

/-!
What becomes of the entries of a manifest. Planning and generating both start from the same step:
an entry is claimed, its file is loaded and its text is cut. From there nothing can fail any more,
for plans and accessors made from a cut pass their checks, so plans and generated types are two
views of one list of outcomes, with one outcome for every entry.
-/

namespace LiteralPack

/-! ### Results -/

section Results

variable {ε ε' α β : Type}

@[simp] theorem ok_bind (a : α) (f : α → Except ε β) : (.ok a >>= f : Except ε β) = f a := rfl

@[simp] theorem error_bind (e : ε) (f : α → Except ε β) :
    (.error e >>= f : Except ε β) = .error e := rfl

@[simp] theorem mapError_ok (f : ε → ε') (a : α) : (Except.ok a).mapError f = .ok a := rfl

@[simp] theorem mapError_error (f : ε → ε') (e : ε) :
    (.error e : Except ε α).mapError f = .error (f e) := rfl

theorem mapError_eq_ok_iff {f : ε → ε'} {x : Except ε α} {a : α} :
    x.mapError f = .ok a ↔ x = .ok a := by
  cases x <;> simp

def values (results : List (Except ε α)) : List α := results.filterMap Except.toOption

def faults (results : List (Except ε α)) : List ε :=
  results.filterMap fun
    | .ok _ => none
    | .error e => some e

@[simp] theorem values_nil : values ([] : List (Except ε α)) = [] := rfl

@[simp] theorem values_cons_ok (a : α) (results : List (Except ε α)) :
    values (.ok a :: results) = a :: values results := rfl

@[simp] theorem values_cons_error (e : ε) (results : List (Except ε α)) :
    values (.error e :: results) = values results := rfl

@[simp] theorem faults_nil : faults ([] : List (Except ε α)) = [] := rfl

@[simp] theorem faults_cons_ok (a : α) (results : List (Except ε α)) :
    faults (.ok a :: results) = faults results := rfl

@[simp] theorem faults_cons_error (e : ε) (results : List (Except ε α)) :
    faults (.error e :: results) = e :: faults results := rfl

theorem length_values_add_length_faults (results : List (Except ε α)) :
    (values results).length + (faults results).length = results.length := by
  induction results with
  | nil => rfl
  | cons result results ih =>
      cases result with
      | ok a =>
          rw [values_cons_ok, faults_cons_ok, List.length_cons, List.length_cons]
          omega
      | error e =>
          rw [values_cons_error, faults_cons_error, List.length_cons, List.length_cons]
          omega

theorem values_map (f : α → β) (results : List (Except ε α)) :
    values (results.map (Except.map f)) = (values results).map f := by
  induction results with
  | nil => rfl
  | cons result results ih =>
      cases result with
      | ok a => exact congrArg (f a :: ·) ih
      | error e => exact ih

theorem faults_map (f : α → β) (results : List (Except ε α)) :
    faults (results.map (Except.map f)) = faults results := by
  induction results with
  | nil => rfl
  | cons result results ih =>
      cases result with
      | ok a => exact ih
      | error e => exact congrArg (e :: ·) ih

theorem mem_values {results : List (Except ε α)} {a : α} :
    a ∈ values results ↔ .ok a ∈ results := by
  induction results with
  | nil => simp
  | cons result results ih => cases result <;> simp [ih]

theorem mem_faults {results : List (Except ε α)} {e : ε} :
    e ∈ faults results ↔ .error e ∈ results := by
  induction results with
  | nil => simp
  | cons result results ih => cases result <;> simp [ih]

end Results

/-! ### Cutting one file -/

theorem Limits.verify_of_cut {limits : Limits} {t : Text} {fs : List Fragment}
    (h : limits.cut t = .ok fs) : Verify.fragments limits t fs = .ok () := by
  obtain ⟨texts, hcut, rfl⟩ := cut_eq_ok_iff.1 h
  have haccepted := Verify.AcceptedFragments.layOut hcut.ne_nil hcut.admits hcut.isChain_couldGrow
  rw [hcut.flatten] at haccepted
  exact Verify.fragments_eq_ok_iff.2 haccepted

namespace Encoder

variable {t : Text} {fs : List Fragment}

def assembled (e : Encoder) (accessor : String) (fs : List Fragment) : Accessors :=
  Accessors.assemble e.partPrefix accessor (fs.map (Fragment.literal e.target))

theorem encode_of_cut (e : Encoder) (accessor : String) (h : e.limits.cut t = .ok fs) :
    e.encode accessor t = .ok (e.assembled accessor fs) := by
  rw [encode, h]
  rfl

theorem exists_cut_of_encode {e : Encoder} {accessor : String} {set : Accessors}
    (h : e.encode accessor t = .ok set) :
    ∃ fs, e.limits.cut t = .ok fs ∧ set = e.assembled accessor fs := by
  cases hcut : e.limits.cut t with
  | error wide =>
      rw [encode, hcut] at h
      cases h
  | ok fs =>
      rw [e.encode_of_cut accessor hcut] at h
      cases h
      exact ⟨fs, rfl, rfl⟩

theorem verify_of_cut (e : Encoder) (accessor : String) (h : e.limits.cut t = .ok fs) :
    ∃ report, Verify.accessors e.limits t (e.assembled accessor fs) = .ok report := by
  obtain ⟨texts, hcut, rfl⟩ := Limits.cut_eq_ok_iff.1 h
  have haccepted := hcut.accepted e.target e.partPrefix accessor
  exact ⟨_, Verify.accessors_eq_ok_iff.2 ⟨texts, haccepted, rfl⟩⟩

end Encoder

/-- The file of a declaration, loaded and cut. -/
structure CutFile where
  declaration : Declaration
  text : Text
  fragments : List Fragment

namespace CutFile

def plan (limits : Limits) (partPrefix : String) (c : CutFile) : Plan where
  typeName := c.declaration.typeName
  accessor := c.declaration.accessor
  path := c.declaration.path
  chars := c.text.length
  bytes := limits.size c.text
  fragments := c.fragments.map fun f => ⟨f.charLen, limits.size f.text⟩
  partNames := Plan.names partPrefix c.declaration.accessor c.fragments.length

def accessors (e : Encoder) (c : CutFile) : Accessors :=
  e.assembled c.declaration.accessor c.fragments

def generated (e : Encoder) (c : CutFile) : GeneratedType :=
  ⟨⟨c.declaration, c.accessors e⟩, c.declaration.summary c.text (c.accessors e)⟩

end CutFile

namespace Declaration

variable {limits : Limits} {d : Declaration} {loaded : Except LoadError Text} {c : CutFile}

def cutFile (limits : Limits) (d : Declaration) (loaded : Except LoadError Text) :
    Except GenerateError CutFile := do
  let t ← loaded.mapError .load
  let fs ← (limits.cut t).mapError .tooWide
  return ⟨d, t, fs⟩

theorem cutFile_eq_ok_iff : d.cutFile limits loaded = .ok c ↔
    c.declaration = d ∧ loaded = .ok c.text ∧ limits.cut c.text = .ok c.fragments := by
  simp only [cutFile, bind_eq_ok_iff, mapError_eq_ok_iff]
  constructor
  · rintro ⟨t, hloaded, fs, hcut, hreturn⟩
    cases hreturn
    exact ⟨rfl, hloaded, hcut⟩
  · rintro ⟨rfl, hloaded, hcut⟩
    exact ⟨c.text, hloaded, c.fragments, hcut, rfl⟩

/-- Planning fails only before the check of the fragments. -/
theorem plan_eq_map (limits : Limits) (partPrefix : String) (d : Declaration)
    (loaded : Except LoadError Text) :
    d.plan limits partPrefix loaded =
      (d.cutFile limits loaded).map (CutFile.plan limits partPrefix) := by
  cases loaded with
  | error cause => rfl
  | ok t =>
      simp only [plan, cutFile, mapError_ok, ok_bind]
      cases hcut : limits.cut t with
      | error wide => rfl
      | ok fs =>
          simp only [mapError_ok, ok_bind, Limits.verify_of_cut hcut]
          rfl

/-- Generating fails only before the check of the accessors, so the flag changes nothing. -/
theorem generate_eq_map (e : Encoder) (verify : Bool) (d : Declaration)
    (loaded : Except LoadError Text) :
    d.generate e verify loaded = (d.cutFile e.limits loaded).map (CutFile.generated e) := by
  cases loaded with
  | error cause => rfl
  | ok t =>
      simp only [generate, ofText, cutFile, mapError_ok, ok_bind]
      cases hcut : e.limits.cut t with
      | error wide =>
          rw [Encoder.encode, hcut]
          rfl
      | ok fs =>
          rw [e.encode_of_cut d.accessor hcut]
          cases verify with
          | false => rfl
          | true =>
              obtain ⟨report, hverify⟩ := e.verify_of_cut d.accessor hcut
              simp only [mapError_ok, ok_bind, hverify]
              rfl

end Declaration

/-! ### Lists of entries -/

/-- Whether an entry was left out before its file was looked at. -/
def Failure.isShape (f : Failure) : Bool :=
  match f.cause with
  | .shape _ => true
  | .generate _ => false

namespace Loaded

def cutFile (limits : Limits) : Loaded → Except Failure CutFile
  | .error r => .error (.ofRejection r)
  | .ok (d, loaded) =>
    (d.cutFile limits loaded).mapError fun cause => ⟨d.interface, .generate cause⟩

theorem plan_eq_map (settings : Settings) (l : Loaded) :
    l.plan settings =
      (l.cutFile settings.limits).map (CutFile.plan settings.limits settings.partPrefix) := by
  cases l with
  | error r => rfl
  | ok accepted =>
      obtain ⟨d, loaded⟩ := accepted
      rw [plan, cutFile, d.plan_eq_map]
      cases d.cutFile settings.limits loaded <;> rfl

end Loaded

theorem Plan.ofLoaded_eq_map (settings : Settings) (loaded : List Loaded) :
    Plan.ofLoaded settings loaded = (loaded.map (Loaded.cutFile settings.limits)).map
      (Except.map (CutFile.plan settings.limits settings.partPrefix)) := by
  rw [ofLoaded, List.map_map]
  exact List.map_congr_left fun l _ => l.plan_eq_map settings

namespace Generation

variable (e : Encoder) (verify : Bool) (d : Declaration) (text : Except LoadError Text)
  (loaded : List Loaded)

theorem results_cons_ok : results e verify (.ok (d, text) :: loaded) =
    (Loaded.cutFile e.limits (.ok (d, text))).map (CutFile.generated e) ::
      results e verify loaded := by
  have hhead : (d.generate e verify text).mapError (fun cause => ⟨d.interface, .generate cause⟩) =
      (Loaded.cutFile e.limits (.ok (d, text))).map (CutFile.generated e) := by
    rw [d.generate_eq_map, Loaded.cutFile]
    cases d.cutFile e.limits text <;> rfl
  exact congrArg (· :: results e verify loaded) hhead

theorem values_results : values (results e verify loaded) =
    (values (loaded.map (Loaded.cutFile e.limits))).map (CutFile.generated e) := by
  induction loaded with
  | nil => rfl
  | cons l loaded ih =>
      cases l with
      | error r => exact ih
      | ok accepted =>
          rw [results_cons_ok, List.map_cons]
          cases Loaded.cutFile e.limits (.ok accepted) with
          | error f => exact ih
          | ok c => exact congrArg (c.generated e :: ·) ih

theorem isShape_of_cutFile {f : Failure} {limits : Limits}
    (h : Loaded.cutFile limits (.ok (d, text)) = .error f) : f.isShape = false := by
  rw [Loaded.cutFile] at h
  cases hcut : d.cutFile limits text with
  | ok c =>
      rw [hcut] at h
      cases h
  | error cause =>
      rw [hcut] at h
      cases h
      rfl

theorem faults_rejections : (rejections loaded).map Failure.ofRejection =
    (faults (loaded.map (Loaded.cutFile e.limits))).filter Failure.isShape := by
  induction loaded with
  | nil => rfl
  | cons l loaded ih =>
      cases l with
      | error r => exact congrArg (Failure.ofRejection r :: ·) ih
      | ok accepted =>
          rw [List.map_cons]
          cases hcut : Loaded.cutFile e.limits (.ok accepted) with
          | ok c => exact ih
          | error f =>
              rw [faults_cons_error, List.filter_cons_of_neg]
              · exact ih
              · simp [isShape_of_cutFile accepted.1 accepted.2 hcut]

theorem failed_eq_faults (results : List (Except Failure GeneratedType)) :
    failed results = faults results :=
  List.filterMap_congr fun result _ => by cases result <;> rfl

theorem faults_results : faults (results e verify loaded) =
    (faults (loaded.map (Loaded.cutFile e.limits))).filter (!·.isShape) := by
  induction loaded with
  | nil => rfl
  | cons l loaded ih =>
      cases l with
      | error r => exact ih
      | ok accepted =>
          rw [results_cons_ok, List.map_cons]
          cases hcut : Loaded.cutFile e.limits (.ok accepted) with
          | ok c => exact ih
          | error f =>
              have hshape := isShape_of_cutFile accepted.1 accepted.2 hcut
              rw [faults_cons_error, List.filter_cons_of_pos (by simp [hshape])]
              exact congrArg (f :: ·) ih

theorem ofLoaded_eq (settings : Settings) : ofLoaded settings verify loaded =
    let cuts := loaded.map (Loaded.cutFile settings.limits)
    let types := (values cuts).map (CutFile.generated settings.encoder)
    { container := ⟨settings.package, settings.container, types.map (·.type)⟩
      summaries := types.map (·.summary)
      failures := (faults cuts).filter Failure.isShape ++ (faults cuts).filter (!·.isShape) } := by
  have htypes : (results settings.encoder verify loaded).filterMap Except.toOption = _ :=
    values_results settings.encoder verify loaded
  rw [ofLoaded, htypes, failed_eq_faults, faults_results, faults_rejections settings.encoder]
  rfl

end Generation

end LiteralPack
