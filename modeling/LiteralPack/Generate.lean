import LiteralPack.Container
import LiteralPack.Load
import LiteralPack.Settings
import LiteralPack.Verify.Accessors

/-!
From a manifest to its container. Each entry either becomes a type of the container or is left
out with a cause; one entry never affects another.
-/

namespace LiteralPack

inductive GenerateError
  | load (cause : LoadError)
  | tooWide (cause : TooWide)
  | invariant (cause : Violation)
  deriving DecidableEq, Repr

def GenerateError.message : GenerateError → String
  | .load cause => cause.message
  | .tooWide cause => cause.message
  | .invariant cause => s!"generated accessors failed verification: {cause.message}"

inductive FailureCause
  | shape (cause : ShapeError)
  | generate (cause : GenerateError)
  deriving DecidableEq, Repr

def FailureCause.message : FailureCause → String
  | .shape cause => cause.message
  | .generate cause => cause.message

/-- An entry left out of the container. An entry of the wrong shape is named by its interface as
written. -/
structure Failure where
  interface : String
  cause : FailureCause
  deriving DecidableEq, Repr

def Failure.ofRejection (r : Rejection) : Failure := ⟨r.interface, .shape r.cause⟩

/-- What is reported of a type. Bytes are those of UTF-8. -/
structure Summary where
  typeName : String
  accessor : String
  fragments : Nat
  chars : Nat
  bytes : Nat
  chunked : Bool
  deriving DecidableEq, Repr

structure GeneratedType where
  type : EmbeddedType
  summary : Summary
  deriving DecidableEq, Repr

def Declaration.summary (d : Declaration) (t : Text) (set : Accessors) : Summary :=
  { typeName := d.typeName
    accessor := d.accessor
    fragments := set.count
    chars := t.length
    bytes := t.utf8Size
    chunked := set.isChunked }

/-- Generates the type of a declaration from the text of its file. -/
def Declaration.ofText (encoder : Encoder) (verify : Bool) (d : Declaration) (t : Text) :
    Except GenerateError GeneratedType := do
  let set ← (encoder.encode d.accessor t).mapError .tooWide
  if verify then
    let _ ← (Verify.accessors encoder.limits t set).mapError .invariant
  return ⟨⟨d, set⟩, d.summary t set⟩

/-- Generates the type of a declaration from what loading its file gave. -/
def Declaration.generate (encoder : Encoder) (verify : Bool) (d : Declaration)
    (loaded : Except LoadError Text) : Except GenerateError GeneratedType := do
  d.ofText encoder verify (← loaded.mapError .load)

structure Generation where
  container : Container
  summaries : List Summary
  failures : List Failure
  deriving DecidableEq, Repr

/-- An entry that was checked, with what loading its file gave if it was accepted. -/
abbrev Loaded := Except Rejection (Declaration × Except LoadError Text)

def Loader.loadAll (load : Loader) (checked : List (Except Rejection Declaration)) : List Loaded :=
  checked.map fun result => result.map fun d => (d, load d.path)

namespace Generation

def rejections (loaded : List Loaded) : List Rejection :=
  loaded.filterMap fun
    | .ok _ => none
    | .error r => some r

/-- The results of the accepted entries, in order. -/
def results (encoder : Encoder) (verify : Bool) (loaded : List Loaded) :
    List (Except Failure GeneratedType) :=
  (loaded.filterMap Except.toOption).map fun (d, text) =>
    (d.generate encoder verify text).mapError fun cause => ⟨d.interface, .generate cause⟩

def failed (results : List (Except Failure GeneratedType)) : List Failure :=
  results.filterMap fun
    | .ok _ => none
    | .error f => some f

/-- Puts together what became of the entries. -/
def ofLoaded (settings : Settings) (verify : Bool) (loaded : List Loaded) : Generation :=
  let results := results settings.encoder verify loaded
  let types := results.filterMap Except.toOption
  { container := ⟨settings.package, settings.container, types.map (·.type)⟩
    summaries := types.map (·.summary)
    failures := (rejections loaded).map Failure.ofRejection ++ failed results }

end Generation

/-- Generates the container of a manifest. -/
def Manifest.generate (m : Manifest) (settings : Settings) (verify : Bool) (load : Loader) :
    Generation :=
  Generation.ofLoaded settings verify
    (load.loadAll (Declaration.check settings.container m.entries))

end LiteralPack
