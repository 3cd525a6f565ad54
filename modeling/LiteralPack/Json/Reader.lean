import LiteralPack.Text

/-!
Reading JSON from left to right into values of a known shape. The first problem met decides: the
text ends too early, it is not JSON, or it is JSON of another shape than the one asked for.
-/

namespace LiteralPack.Json

/-- How a value differs from the shape asked for. -/
inductive Mismatch
  | missingField (name : String)
  | duplicateField (name : String)
  | unknownVariant (name : String) (expected : List String)
  | wrongType
  | wrongValue
  | wrongLength
  deriving DecidableEq, Repr

inductive Fault
  | ended
  | malformed
  | mismatch (m : Mismatch)
  deriving DecidableEq, Repr

/-- A fault, and how many code points were left to read. -/
structure ReadError where
  fault : Fault
  unread : Nat
  deriving DecidableEq, Repr

def quoted (name : String) : String := s!"\x60{name}\x60"

def Mismatch.message : Mismatch → String
  | .missingField name => s!"missing field {quoted name}"
  | .duplicateField name => s!"duplicate field {quoted name}"
  | .unknownVariant name expected =>
    let choices := " or ".intercalate (expected.map quoted)
    s!"unknown variant {quoted name}, expected {choices}"
  | .wrongType => "invalid type"
  | .wrongValue => "invalid value"
  | .wrongLength => "invalid length"

def Fault.message : Fault → String
  | .ended => "unexpected end of input"
  | .malformed => "malformed JSON"
  | .mismatch m => m.message

/-- The line and the column behind the last of the code points read. -/
def position (read : Text) : Nat × Nat :=
  read.foldl (fun (line, column) c => if c = '\n' then (line + 1, 0) else (line, column + 1)) (1, 0)

def ReadError.message (source : Text) (e : ReadError) : String :=
  let (line, column) := position (source.take (source.length - e.unread))
  s!"{e.fault.message} at line {line} column {column}"

def failAt (fault : Fault) (rest : Text) : Except ReadError α := .error ⟨fault, rest.length⟩

abbrev Reader := StateT Text (Except ReadError)

def fail (fault : Fault) : Reader α := fun rest => failAt fault rest

def mismatch (m : Mismatch) : Reader α := fail (.mismatch m)

def isBlank (c : Char) : Bool := c == ' ' || c == '\n' || c == '\t' || c == '\r'

/-- The next character that is not blank, which is left to be read. -/
def peek : Reader (Option Char) := fun rest =>
  let rest := rest.dropWhile isBlank
  .ok (rest.head?, rest)

/-- The next character that is not blank, of which there must be one. -/
def peekSome : Reader Char := do
  match ← peek with
  | some c => return c
  | none => fail .ended

def advance : Reader Unit := modify (List.drop 1)

/-- Reads one character that must be `c`. -/
def expect (c : Char) : Reader Unit := do
  if (← peekSome) = c then advance else fail .malformed

/-- Reads what remains of a word such as `null`. -/
def wordFrom : Text → Text → Except ReadError (Unit × Text)
  | [], rest => .ok ((), rest)
  | _ :: _, [] => failAt .ended []
  | w :: word, c :: rest => if w = c then wordFrom word rest else failAt .malformed rest

def word (w : String) : Reader Unit := fun rest => wordFrom w.toList rest

/-- Reads a whole text, behind which only blanks may follow. -/
def Reader.readAll (reader : Reader α) (source : Text) : Except ReadError α := do
  let (a, rest) ← reader source
  match rest.dropWhile isBlank with
  | [] => return a
  | extra => failAt .malformed extra

end LiteralPack.Json
