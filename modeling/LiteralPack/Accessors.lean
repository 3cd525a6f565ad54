import LiteralPack.Literal

/-!
The accessors of one file. A file of one fragment has a single accessor that returns it. A longer
file has one private accessor per fragment, and a public one that joins them in order.
-/

namespace LiteralPack

/-- A private accessor, which returns one fragment. -/
structure Part where
  name : String
  literal : Literal
  deriving DecidableEq, Repr

inductive Accessors
  | direct (name : String) (literal : Literal)
  | chunked (name : String) (parts : List Part)
  deriving DecidableEq, Repr

/-- The name of the private accessor of fragment `index`. -/
def partName (partPrefix accessor : String) (index : Nat) : String :=
  partPrefix ++ accessor ++ toString index

/-- What stands before the name of a private accessor unless a manifest says otherwise. -/
def defaultPartPrefix : String := "__"

namespace Accessors

/-- The name of the public accessor. -/
def name : Accessors → String
  | direct name _ => name
  | chunked name _ => name

def isChunked : Accessors → Bool
  | direct .. => false
  | chunked .. => true

/-- The literals in the order in which they are joined. -/
def literals : Accessors → List Literal
  | direct _ literal => [literal]
  | chunked _ parts => parts.map Part.literal

/-- The names that the public accessor calls, in order; none if it returns its literal itself. -/
def assembly : Accessors → List String
  | direct .. => []
  | chunked _ parts => parts.map Part.name

def count (set : Accessors) : Nat := set.literals.length

def parts (partPrefix accessor : String) (literals : List Literal) : List Part :=
  literals.zipIdx.map fun (literal, index) => ⟨partName partPrefix accessor index, literal⟩

def assemble (partPrefix accessor : String) : List Literal → Accessors
  | [literal] => direct accessor literal
  | literals => chunked accessor (parts partPrefix accessor literals)

@[simp] theorem name_assemble (partPrefix accessor : String) (literals : List Literal) :
    (assemble partPrefix accessor literals).name = accessor := by
  unfold assemble
  split <;> rfl

@[simp] theorem literals_assemble (partPrefix accessor : String) (literals : List Literal) :
    (assemble partPrefix accessor literals).literals = literals := by
  unfold assemble
  split
  · rfl
  · simp [Accessors.literals, parts, List.map_map, Function.comp_def]

theorem isChunked_assemble (partPrefix accessor : String) (literals : List Literal) :
    (assemble partPrefix accessor literals).isChunked = (literals.length != 1) := by
  match literals with
  | [] => rfl
  | [_] => rfl
  | _ :: _ :: _ => simp [assemble, isChunked]

end Accessors

end LiteralPack
