import LiteralPack.Path
import LiteralPack.Signature

/-!
Declarations. An entry of a manifest names an interface, its member and a file. It is accepted
when the interface is a qualified name with a package, the member is an accessor of a string and
the path is not empty. The generated type takes the simple name of the interface, so of several
entries with one simple name only the first is accepted, and none may take the container's name.
-/

namespace LiteralPack

/-- An entry as a manifest gives it. -/
structure Entry where
  interface : String
  member : String
  path : Path
  deriving DecidableEq, Repr

structure Declaration where
  typeName : String
  interface : String
  accessor : String
  path : Path
  deriving DecidableEq, Repr

/-- An entry left out, under its interface as written. -/
structure Rejection where
  interface : String
  cause : ShapeError
  deriving DecidableEq, Repr

namespace Entry

def declaration (e : Entry) : Except ShapeError Declaration := do
  let interface := Text.trim e.interface.toList
  if !Identifier.isQualified interface then throw (.invalidInterface e.interface)
  let segments := Identifier.dotSegments interface
  if segments.length < 2 then throw (.unpackagedInterface (String.ofList interface))
  let accessor ← Signature.accessor e.member.toList
  if e.path.text.isEmpty then throw .emptyPath
  return {
    typeName := String.ofList (segments.getLastD [])
    interface := String.ofList interface
    accessor
    path := e.path }

/-- The declaration of an entry, unless its type name is taken. -/
def claim (container : String) (taken : List String) (e : Entry) :
    Except ShapeError Declaration := do
  let d ← e.declaration
  if d.typeName = container then throw (.shadowsContainer d.typeName)
  if taken.contains d.typeName then throw (.duplicateType d.typeName)
  return d

end Entry

namespace Declaration

/-- One result per entry, in order, where `taken` are the type names claimed before. -/
def claimAll (container : String) (taken : List String) :
    List Entry → List (Except Rejection Declaration)
  | [] => []
  | e :: rest =>
    match e.claim container taken with
    | .ok d => .ok d :: claimAll container (d.typeName :: taken) rest
    | .error cause => .error ⟨e.interface, cause⟩ :: claimAll container taken rest

/-- One result per entry of a manifest, in order. -/
def check (container : String) (entries : List Entry) : List (Except Rejection Declaration) :=
  claimAll container [] entries

def accepted (results : List (Except Rejection Declaration)) : List Declaration :=
  results.filterMap Except.toOption

def rejected (results : List (Except Rejection Declaration)) : List Rejection :=
  results.filterMap fun
    | .ok _ => none
    | .error r => some r

theorem length_claimAll (container : String) (taken : List String) (entries : List Entry) :
    (claimAll container taken entries).length = entries.length := by
  induction entries generalizing taken with
  | nil => rfl
  | cons e rest ih =>
    unfold claimAll
    split <;> simp [ih]

end Declaration

end LiteralPack
