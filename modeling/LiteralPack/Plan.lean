import LiteralPack.Generate
import LiteralPack.Verify.Fragments

/-!
How the file of a declaration would be cut, without writing anything. Bytes are counted under the
measure of the limits.
-/

namespace LiteralPack

structure FragmentSize where
  chars : Nat
  bytes : Nat
  deriving DecidableEq, Repr

structure Plan where
  typeName : String
  accessor : String
  path : Path
  chars : Nat
  bytes : Nat
  fragments : List FragmentSize
  partNames : List String
  deriving DecidableEq, Repr

namespace Plan

def isChunked (p : Plan) : Bool := 1 < p.fragments.length

/-- The names of the private accessors; there are none for a single fragment. -/
def names (partPrefix accessor : String) (count : Nat) : List String :=
  if 1 < count then (List.range count).map (partName partPrefix accessor) else []

end Plan

def Declaration.plan (limits : Limits) (partPrefix : String) (d : Declaration)
    (loaded : Except LoadError Text) : Except GenerateError Plan := do
  let t ← loaded.mapError .load
  let fragments ← (limits.cut t).mapError .tooWide
  (Verify.fragments limits t fragments).mapError .invariant
  return {
    typeName := d.typeName
    accessor := d.accessor
    path := d.path
    chars := t.length
    bytes := limits.size t
    fragments := fragments.map fun f => ⟨f.charLen, limits.size f.text⟩
    partNames := Plan.names partPrefix d.accessor fragments.length }

/-- The plan or the failure of one entry. -/
def Loaded.plan (settings : Settings) : Loaded → Except Failure Plan
  | .error r => .error (.ofRejection r)
  | .ok (d, text) => (d.plan settings.limits settings.partPrefix text).mapError fun cause =>
    ⟨d.interface, .generate cause⟩

/-- One plan or failure per entry, in order. -/
def Plan.ofLoaded (settings : Settings) (loaded : List Loaded) : List (Except Failure Plan) :=
  loaded.map (Loaded.plan settings)

def Manifest.plan (m : Manifest) (settings : Settings) (load : Loader) :
    List (Except Failure Plan) :=
  Plan.ofLoaded settings (load.loadAll (Declaration.check settings.container m.entries))

end LiteralPack
