import LiteralPack.Hex
import LiteralPack.Json.Reader
import LiteralPack.Measure
import LiteralPack.Utf16

/-!
JSON strings, from behind their opening quote. A string that is used must be made of code points,
so surrogates must come in pairs; one that is skipped need only have well-formed escapes.
-/

namespace LiteralPack.Json

/-- What a letter behind a backslash stands for. -/
def escape? : Char → Option Char
  | '"' => some '"'
  | '\\' => some '\\'
  | '/' => some '/'
  | 'b' => some '\x08'
  | 'f' => some '\x0c'
  | 'n' => some '\n'
  | 'r' => some '\r'
  | 't' => some '\t'
  | _ => none

/-- A unit escape with less than four bytes to come is cut short; otherwise its digits are bad. -/
def shortUnit (digits : Text) : Fault := if digits.utf8Size < 4 then .ended else .malformed

/-- Reads on behind `read`, which comes last code point first. `high` is a high surrogate just
read that waits for its low one. -/
def stringFrom (high : Option Nat) (read : Text) : Text → Except ReadError (Text × Text)
  | [] => failAt .ended []
  | ['\\'] => failAt .ended []
  | '\\' :: 'u' :: a :: b :: c :: d :: rest =>
    match Hex.readFour? a b c d with
    | none => failAt .malformed rest
    | some unit =>
      match high with
      | none =>
        if Utf16.isHigh unit then stringFrom (some unit) read rest
        else if Utf16.isLow unit then failAt .malformed rest
        else stringFrom none (Char.ofNat unit :: read) rest
      | some lead =>
        if Utf16.isLow unit then stringFrom none (Utf16.join lead unit :: read) rest
        else failAt .malformed rest
  | '\\' :: 'u' :: digits => failAt (shortUnit digits) digits
  | '\\' :: letter :: rest =>
    match high, escape? letter with
    | none, some c => stringFrom none (c :: read) rest
    | _, _ => failAt .malformed rest
  | c :: rest =>
    if high.isSome then failAt .malformed rest
    else if c = '"' then .ok (read.reverse, rest)
    else if c < ' ' then failAt .malformed rest
    else stringFrom none (c :: read) rest

/-- Skips a string. -/
def skipString : Text → Except ReadError Text
  | [] => failAt .ended []
  | ['\\'] => failAt .ended []
  | '\\' :: 'u' :: a :: b :: c :: d :: rest =>
    if (Hex.readFour? a b c d).isSome then skipString rest else failAt .malformed rest
  | '\\' :: 'u' :: digits => failAt (shortUnit digits) digits
  | '\\' :: letter :: rest =>
    if (escape? letter).isSome then skipString rest else failAt .malformed rest
  | c :: rest =>
    if c = '"' then .ok rest
    else if c < ' ' then failAt .malformed rest
    else skipString rest

/-- Reads a string whose opening quote is next. -/
def quotedString : Reader Text := do
  expect '"'
  stringFrom none []

end LiteralPack.Json
