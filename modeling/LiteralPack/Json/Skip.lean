import LiteralPack.Json.Number
import LiteralPack.Json.Quoted

/-!
Skipping a value of any kind, however deep. The lists and objects that are open are kept on a
stack, the innermost first.
-/

namespace LiteralPack.Json

inductive Frame
  | list
  | object
  deriving DecidableEq, Repr

/-- What may come next: a value, the first item of the innermost frame, the name of a field, or
what follows a value. -/
inductive Stage
  | value
  | opened
  | field
  | closed
  deriving DecidableEq, Repr

structure Progress where
  frames : List Frame
  stage : Stage
  rest : Text
  deriving DecidableEq, Repr

def skipBlanks (rest : Text) : Text := rest.dropWhile isBlank

def skipWord (w : String) (rest : Text) : Except ReadError Text :=
  (wordFrom w.toList rest).map Prod.snd

/-- Skips a value that is neither a list nor an object. -/
def skipScalar (rest : Text) : Except ReadError Text :=
  match rest with
  | [] => failAt .ended []
  | '"' :: rest => skipString rest
  | 'n' :: rest => skipWord "ull" rest
  | 't' :: rest => skipWord "rue" rest
  | 'f' :: rest => skipWord "alse" rest
  | c :: _ => if c = '-' ∨ c.isDigit then skipNumber rest else failAt .malformed rest

/-- Skips the name of a field and the colon behind it. -/
def skipName (rest : Text) : Except ReadError Text := do
  match rest with
  | [] => failAt .ended []
  | '"' :: rest =>
    match skipBlanks (← skipString rest) with
    | [] => failAt .ended []
    | ':' :: rest => return rest
    | rest => failAt .malformed rest
  | _ => failAt .malformed rest

/-- Skips a value, or the bracket that opens it. -/
def skipStart (frames : List Frame) (rest : Text) : Except ReadError Progress :=
  match rest with
  | '[' :: rest => .ok ⟨.list :: frames, .opened, rest⟩
  | '{' :: rest => .ok ⟨.object :: frames, .opened, rest⟩
  | _ => (skipScalar rest).map fun rest => ⟨frames, .closed, rest⟩

/-- Skips on by at least one character. -/
def skipStep (p : Progress) : Except ReadError Progress :=
  match p.stage, p.frames, skipBlanks p.rest with
  | .value, frames, rest => skipStart frames rest
  | .opened, .list :: outer, ']' :: rest => .ok ⟨outer, .closed, rest⟩
  | .opened, .object :: outer, '}' :: rest => .ok ⟨outer, .closed, rest⟩
  | .opened, .list :: outer, rest => skipStart (.list :: outer) rest
  | .closed, .list :: outer, ',' :: rest => .ok ⟨.list :: outer, .value, rest⟩
  | .closed, .list :: outer, ']' :: rest => .ok ⟨outer, .closed, rest⟩
  | .closed, .object :: outer, ',' :: rest => .ok ⟨.object :: outer, .field, rest⟩
  | .closed, .object :: outer, '}' :: rest => .ok ⟨outer, .closed, rest⟩
  | .closed, _, [] => failAt .ended []
  | .closed, _, rest => failAt .malformed rest
  | _, frames, rest => (skipName rest).map fun rest => ⟨frames, .value, rest⟩

/-- Skips on until the value is closed. `bound` is at least as long as what is left to read, so it
is used up only when there is nothing left. -/
def skipWithin (bound : Text) (p : Progress) : Except ReadError Text :=
  if p.frames.isEmpty && p.stage == .closed then .ok p.rest
  else
    match bound with
    | [] => failAt .ended p.rest
    | _ :: bound =>
      match skipStep p with
      | .error e => .error e
      | .ok p => skipWithin bound p

/-- Skips one value. -/
def skipValue : Reader Unit := fun rest =>
  (skipWithin rest ⟨[], .value, rest⟩).map fun rest => ((), rest)

/-- Refuses the value to come, which is of a kind that was not asked for. A value that is not
well-formed, or ends too early, is refused for that. -/
def wrongType : Reader α := do
  match ← peekSome with
  | 'n' => advance; word "ull"; mismatch .wrongType
  | 't' => advance; word "rue"; mismatch .wrongType
  | 'f' => advance; word "alse"; mismatch .wrongType
  | '"' => let _ ← quotedString; mismatch .wrongType
  | '[' | '{' => mismatch .wrongType
  | c =>
    if c = '-' ∨ c.isDigit then
      let _ ← number
      mismatch .wrongType
    else fail .malformed

end LiteralPack.Json
