import LiteralPack.Json.Skip

/-!
Readers for values of a known shape: words from a fixed choice, integers, strings, lists, and
records. A record is an object, whose unknown fields are skipped, or a list of its fields in order.
-/

namespace LiteralPack.Json

/-- Reads a natural number of at most `max`. -/
def natural (max : Nat) : Reader Nat := do
  let c ← peekSome
  if c = '-' ∨ c.isDigit then
    match ← number with
    | .natural n => if n ≤ max then return n else mismatch .wrongValue
    | .negative _ => mismatch .wrongValue
    | .fractional => mismatch .wrongType
  else wrongType

def string : Reader String := do
  if (← peekSome) = '"' then return String.ofList (← quotedString) else wrongType

/-- Reads `null`. -/
def null : Reader Unit := do
  if (← peekSome) = 'n' then
    advance
    word "ull"
  else wrongType

def choose (choices : List (String × α)) (name : String) : Reader α :=
  match choices.find? (·.1 == name) with
  | some (_, a) => return a
  | none => mismatch (.unknownVariant name (choices.map Prod.fst))

/-- Reads one of some names, or an object that maps one of them to `null`. What is neither a string
nor such an object is malformed. -/
def variant (choices : List (String × α)) : Reader α := do
  match ← peekSome with
  | '"' => choose choices (← string)
  | '{' =>
    advance
    let a ← choose choices (String.ofList (← quotedString))
    expect ':'
    null
    expect '}'
    return a
  | _ => fail .malformed

/-- Whether a list goes on with another item, with the comma in front of it read. -/
def moreItems (first : Bool) : Reader Bool := do
  match ← peekSome with
  | ']' => return false
  | c =>
    if first then return true
    if c ≠ ',' then fail .malformed
    advance
    if (← peekSome) = ']' then fail .malformed else return true

/-- The name of the next field of an object, if it goes on with another field. -/
def nextName (first : Bool) : Reader (Option Text) := do
  match ← peekSome with
  | '}' => return none
  | c =>
    if !first then
      if c ≠ ',' then fail .malformed
      advance
    if (← peekSome) = '"' then return some (← quotedString) else fail .malformed

/-- Reads the items of a list. `items` are those read so far, the last one first, and `bound` is at
least as long as what is left to read: each item takes a character. -/
def itemsWithin (item : Reader α) : Text → List α → Reader (List α)
  | [], _ => fail .ended
  | _ :: bound, items => do
    if ← moreItems items.isEmpty then itemsWithin item bound ((← item) :: items)
    else return items.reverse

/-- Reads a list. -/
def list (item : Reader α) : Reader (List α) := do
  if (← peekSome) ≠ '[' then wrongType
  advance
  let items ← itemsWithin item (← get) []
  expect ']'
  return items

/-- A field of a record that is read into a draft `δ`. -/
structure RecordField (δ : Type) where
  name : String
  isSet : δ → Bool
  read : δ → Reader δ

/-- Reads the fields of an object. `bound` is at least as long as what is left to read: each field
takes a character. -/
def objectWithin (fields : List (RecordField δ)) : Text → Bool → δ → Reader δ
  | [], _, _ => fail .ended
  | _ :: bound, first, draft => do
    let some name ← nextName first | return draft
    match fields.find? fun f => f.name.toList == name with
    | none =>
      expect ':'
      skipValue
      objectWithin fields bound false draft
    | some f =>
      if f.isSet draft then mismatch (.duplicateField f.name)
      expect ':'
      objectWithin fields bound false (← f.read draft)

/-- Reads the fields of a record given as a list. -/
def listed : List (RecordField δ) → Bool → δ → Reader δ
  | [], _, draft => return draft
  | f :: fields, first, draft => do
    if ← moreItems first then listed fields false (← f.read draft) else return draft

/-- Reads a record. `finish` makes a value of a draft, or names a required field that is not set. -/
def record (fields : List (RecordField δ)) (empty : δ) (finish : δ → Except String α) :
    Reader α := do
  match ← peekSome with
  | '{' =>
    advance
    match finish (← objectWithin fields (← get) true empty) with
    | .ok a => expect '}'; return a
    | .error name => mismatch (.missingField name)
  | '[' =>
    advance
    match finish (← listed fields true empty) with
    | .ok a => expect ']'; return a
    | .error _ => mismatch .wrongLength
  | _ => wrongType

end LiteralPack.Json
