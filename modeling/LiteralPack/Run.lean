import LiteralPack.Container.Render
import LiteralPack.Manifest.Read
import LiteralPack.Plan
import LiteralPack.Store

/-!
Runs: a manifest is read from a store, its container is generated and written in one piece. A run
fails as a whole only if its manifest cannot be used or its output cannot be written. A guard lets
at most one run begin.
-/

namespace LiteralPack

inductive RunError
  | readManifest (path : Path) (reason : String)
  | parseManifest (path : Path) (source : Text) (cause : Json.ReadError)
  | unsupportedVersion (version : Nat)
  | settings (cause : SettingsError)
  | write (path : Path) (cause : StoreFault)
  deriving DecidableEq, Repr

namespace RunError

/-- What an error is due to, for those whose cause is outside the manifest's own rules. -/
def cause? : RunError → Option String
  | .readManifest _ reason => some reason
  | .parseManifest _ source cause => some (cause.message source)
  | .write _ cause => some cause.message
  | .unsupportedVersion _ | .settings _ => none

def message : RunError → String
  | .readManifest path reason => s!"failed to read manifest {path.text}: {reason}"
  | .parseManifest path source cause =>
    s!"invalid manifest JSON in {path.text}: {cause.message source}"
  | .unsupportedVersion version =>
    s!"unsupported manifest version {version} (expected {Manifest.supportedVersion})"
  | .settings cause => cause.message
  | .write path cause => s!"failed to write {path.text}: {cause.message}"

end RunError

/-- The text of bytes that are valid UTF-8. -/
def Text.ofBytes? (bytes : ByteArray) : Option Text := (String.fromUTF8? bytes).map String.toList

def Text.toBytes (t : Text) : ByteArray := (String.ofList t).toUTF8

/-- The manifest in the bytes of a file. -/
def Manifest.ofBytes (path : Path) (bytes : ByteArray) : Except RunError Manifest := do
  let some source := Text.ofBytes? bytes
    | throw (.readManifest path "stream did not contain valid UTF-8")
  let m ← (Manifest.read source).mapError (.parseManifest path source)
  if m.version ≠ Manifest.supportedVersion then throw (.unsupportedVersion m.version)
  return m

def Manifest.settled (m : Manifest) (overrides : Overrides) : Except RunError Settings :=
  (m.settings overrides).mapError .settings

/-- What reading a declared file means for its declaration. -/
def loadedText (path : Path) : Except StoreFault ByteArray → Except LoadError Text
  | .error .notFound => .error (.notFound path)
  | .error fault => .error (.unreadable path fault.message)
  | .ok bytes =>
    match Text.ofBytes? bytes with
    | some t => .ok t
    | none => .error (.notUtf8 path)

structure Options where
  manifest : Path
  output : Path
  overrides : Overrides := {}
  verify : Bool := false
  deriving DecidableEq, Repr

structure Report where
  output : Path
  target : Target
  generated : List Summary
  failures : List Failure
  deriving DecidableEq, Repr

namespace Report

def isSuccess (r : Report) : Bool := r.failures.isEmpty

def totalFragments (r : Report) : Nat := r.generated.foldr (fun s total => s.fragments + total) 0

def totalBytes (r : Report) : Nat := r.generated.foldr (fun s total => s.bytes + total) 0

end Report

section Stored

variable {m : Type → Type} [Monad m] [FileStore m]

def Manifest.load (path : Path) : ExceptT RunError m Manifest := do
  match ← (FileStore.read path : m _) with
  | .ok bytes => liftExcept (Manifest.ofBytes path bytes)
  | .error fault => throw (.readManifest path fault.message)

/-- Loads a declared file, which is seen from the directory `base`. -/
def loadFrom (base path : Path) : m (Except LoadError Text) :=
  return loadedText (base.join path) (← FileStore.read (base.join path))

/-- Loads the files of the entries that were accepted. -/
def loadAll (base : Path) (checked : List (Except Rejection Declaration)) :
    m (List (Except Rejection (Declaration × Except LoadError Text))) :=
  checked.mapM fun
    | .error r => pure (.error r)
    | .ok d => return .ok (d, ← loadFrom base d.path)

/-- Writes a container below the directory `output`. -/
def Container.store (target : Target) (output : Path) (c : Container) :
    ExceptT RunError m Path := do
  let path := c.path target output
  if let some directory := path.parent? then
    if let .error fault ← (FileStore.makeDirs directory : m _) then throw (.write directory fault)
  if let .error fault ← (FileStore.write path (Text.toBytes (c.render target)) : m _) then
    throw (.write path fault)
  return path

/-- Runs without a guard. -/
def Options.run (options : Options) : ExceptT RunError m Report := do
  let manifest ← Manifest.load options.manifest
  let settings ← liftExcept (manifest.settled options.overrides)
  let checked := Declaration.check settings.container manifest.entries
  let loaded ← (loadAll options.manifest.directory checked : m _)
  let g := Generation.ofLoaded settings options.verify loaded
  let output ← g.container.store settings.target options.output
  return { output, target := settings.target, generated := g.summaries, failures := g.failures }

/-- Plans every entry of a manifest. Nothing is written. -/
def inspect (path : Path) : ExceptT RunError m (Settings × List (Except Failure Plan)) := do
  let manifest ← Manifest.load path
  let settings ← liftExcept (manifest.settled {})
  let checked := Declaration.check settings.container manifest.entries
  let loaded ← (loadAll path.directory checked : m _)
  return (settings, Plan.ofLoaded settings loaded)

end Stored

/-- Whether a run has begun. -/
structure Guard where
  hasRun : Bool := false
  deriving DecidableEq, Inhabited, Repr

inductive Outcome
  | skipped
  | completed (report : Report)
  deriving DecidableEq, Repr

/-- Runs unless the guard was used before. The guard is used up even if the run fails. -/
def Guard.run {m : Type → Type} [Monad m] [FileStore m] (g : Guard) (options : Options) :
    m (Except RunError Outcome × Guard) := do
  if g.hasRun then return (.ok .skipped, g)
  let result ← (options.run : ExceptT RunError m Report).run
  return (result.map .completed, ⟨true⟩)

end LiteralPack
