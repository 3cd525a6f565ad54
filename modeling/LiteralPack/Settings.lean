import LiteralPack.Encode
import LiteralPack.Manifest

/-!
The settings of a run: those of the manifest, unless overridden, once they are known to be sound.
The container is an identifier, the package a qualified name or empty, and the part prefix keeps
an identifier one when it is put in front of it.
-/

namespace LiteralPack

structure Settings where
  target : Target
  package : String
  container : String
  partPrefix : String
  limits : Limits
  deriving DecidableEq

inductive SettingsError
  | invalidContainer (name : String)
  | invalidPackage (name : String)
  | invalidPartPrefix (name : String)
  | invalidLimits (cause : LimitsError)
  deriving DecidableEq, Repr

def SettingsError.message : SettingsError → String
  | .invalidContainer name => s!"invalid container name \x60{name}\x60"
  | .invalidPackage name => s!"invalid package \x60{name}\x60"
  | .invalidPartPrefix name => s!"invalid fragment prefix \x60{name}\x60"
  | .invalidLimits cause => cause.message

/-- What a caller sets in place of the manifest. -/
structure Overrides where
  target : Option Target := none
  container : Option String := none
  deriving DecidableEq, Repr

def isPackage (t : Text) : Bool := t.isEmpty || Identifier.isQualified t

def isPartPrefix (t : Text) : Bool := t.isEmpty || Identifier.isIdentifier (t ++ ['x'])

def Manifest.settings (m : Manifest) (overrides : Overrides) : Except SettingsError Settings := do
  let container := overrides.container.getD m.container
  if !Identifier.isIdentifier container.toList then throw (.invalidContainer container)
  let package := Text.trim m.package.toList
  if !isPackage package then throw (.invalidPackage (String.ofList package))
  if !isPartPrefix m.partPrefix.toList then throw (.invalidPartPrefix m.partPrefix)
  let limits ← m.caps.limits.mapError .invalidLimits
  return {
    target := overrides.target.getD m.target
    package := String.ofList package
    container, limits
    partPrefix := m.partPrefix }

def Settings.encoder (s : Settings) : Encoder :=
  { target := s.target, partPrefix := s.partPrefix, limits := s.limits }

end LiteralPack
