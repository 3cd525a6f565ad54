import LiteralPack.Hex
import LiteralPack.Text
import LiteralPack.Utf16

/-!
Reading the body of a string literal of either target. Two adjacent unit escapes that name a high
and a low surrogate stand for one code point; a surrogate on its own is refused.
-/

namespace LiteralPack.Literal

inductive DecodeError
  | danglingBackslash
  | unknownEscape (letter : Char)
  | badUnicodeEscape (digits : Text)
  | loneSurrogate (unit : Nat)
  deriving DecidableEq, Repr

def DecodeError.message : DecodeError → String
  | .danglingBackslash => "literal ends with a lone backslash"
  | .unknownEscape letter => "unknown escape sequence \x60\\" ++ letter.toString ++ "\x60"
  | .badUnicodeEscape digits => "malformed unicode escape \x60\\u" ++ String.ofList digits ++ "\x60"
  | .loneSurrogate unit => "unpaired surrogate \\u" ++ Hex.label unit

/-- What a letter after a backslash stands for. -/
def meaning? : Char → Option Char
  | 'b' => some '\x08'
  | 't' => some '\t'
  | 'n' => some '\n'
  | 'f' => some '\x0c'
  | 'r' => some '\r'
  | '"' => some '"'
  | '\'' => some '\''
  | '\\' => some '\\'
  | '$' => some '$'
  | _ => none

/-- Reads on behind `decoded`, which comes last code point first. `high` is a high surrogate just
read that waits for its low one. -/
def decodeFrom (high : Option Nat) (decoded : Text) : Text → Except DecodeError Text
  | [] =>
    match high with
    | some unit => .error (.loneSurrogate unit)
    | none => .ok decoded.reverse
  | ['\\'] => .error .danglingBackslash
  | '\\' :: 'u' :: a :: b :: c :: d :: rest =>
    match Hex.readFour? a b c d with
    | none => .error (.badUnicodeEscape [a, b, c, d])
    | some unit =>
      match high with
      | none =>
        if Utf16.isHigh unit then decodeFrom (some unit) decoded rest
        else if Utf16.isLow unit then .error (.loneSurrogate unit)
        else decodeFrom none (Char.ofNat unit :: decoded) rest
      | some lead =>
        if Utf16.isLow unit then decodeFrom none (Utf16.join lead unit :: decoded) rest
        else .error (.loneSurrogate lead)
  | '\\' :: 'u' :: digits => .error (.badUnicodeEscape digits)
  | '\\' :: letter :: rest =>
    match meaning? letter with
    | none => .error (.unknownEscape letter)
    | some c =>
      match high with
      | some unit => .error (.loneSurrogate unit)
      | none => decodeFrom none (c :: decoded) rest
  | c :: rest =>
    match high with
    | some unit => .error (.loneSurrogate unit)
    | none => decodeFrom none (c :: decoded) rest

def decode (body : Text) : Except DecodeError Text := decodeFrom none [] body

end LiteralPack.Literal
