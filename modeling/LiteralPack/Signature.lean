import LiteralPack.Identifier
import LiteralPack.ShapeError

/-!
Signatures of accessor members, in either spelling: `String text()` with optional modifiers in
front, or `fun text(): String`. A signature gives the name of a member that takes nothing and
returns a string.
-/

namespace LiteralPack.Signature

/-- The words that may stand in front of the return type. -/
def modifiers : List String := ["public", "abstract"]

def javaStrings : List String := ["String", "java.lang.String"]

def kotlinStrings : List String := ["String", "kotlin.String"]

/-- A member as it was written. -/
structure Member where
  name : Text
  parameters : Text
  returns : Text
  deriving DecidableEq, Repr

def Member.accessor (accepted : List String) (m : Member) : Except ShapeError String := do
  let name := String.ofList m.name
  if !m.parameters.isEmpty then throw (.hasParameters name)
  let returns := String.ofList m.returns
  if !accepted.contains returns then throw (.nonTextReturn name returns)
  if !Identifier.isIdentifier m.name then throw (.invalidIdentifier name)
  return name

/-- Signature text without its trailing semicolons. -/
def statement (t : Text) : Text := (Text.trim t).dropRightWhile (· == ';') |> Text.trimRight

/-- What stands before, inside and behind the outermost parentheses. -/
def parenthesized? (t : Text) : Option (Text × Text × Text) := do
  let (head, rest) ← Text.splitFirst? (· == '(') t
  let (inside, tail) ← Text.splitLast? (· == ')') rest
  return (Text.trim head, Text.trim inside, Text.trim tail)

/-- The name behind the keyword of a Kotlin function. -/
def functionName? : Text → Option Text
  | 'f' :: 'u' :: 'n' :: ' ' :: name => some (Text.trim name)
  | _ => none

/-- A function without a return type returns nothing of use. -/
def functionReturns? : Text → Option Text
  | [] => some "Unit".toList
  | ':' :: returns => some (Text.trim returns)
  | _ => none

/-- The return type and the name of a method, with its modifiers dropped. -/
def methodHead? (head : Text) : Option (Text × Text) := do
  let words := Text.words head
  let name ← words.getLast?
  let returns := words.dropLast.dropWhile fun w => modifiers.contains (String.ofList w)
  if returns.isEmpty then none
  return (List.intercalate [' '] returns, name)

/-- The name of the accessor that a signature declares. -/
def accessor (signature : Text) : Except ShapeError String := do
  let malformed := ShapeError.malformedMember (String.ofList signature)
  let some (head, parameters, tail) := parenthesized? (statement signature) | throw malformed
  match functionName? head with
  | some name =>
    if !parameters.isEmpty then throw (.hasParameters (String.ofList name))
    let some returns := functionReturns? tail | throw malformed
    Member.accessor kotlinStrings ⟨name, parameters, returns⟩
  | none =>
    if !tail.isEmpty then throw malformed
    let some (returns, name) := methodHead? head | throw malformed
    Member.accessor javaStrings ⟨name, parameters, returns⟩

end LiteralPack.Signature
