import LiteralPack.Audit
import LiteralPack.Cut
import LiteralPack.Text.Slice

/-!
The cut as a machine on counters. The text stays where it is; a piece of it is told by where it
starts and stops, in code points and in bytes, and its size is kept up while code points are given
back. The counters are numbers below a bound, differences of them must not fall below zero, and a
part of the text can be looked at only between boundaries of code points: where one of these fails
the machine stops with a fault. It audits the fragments before it hands them out.
-/

namespace LiteralPack

/-- A machine that cuts `text`, with numbers below `word`. -/
structure Cutter where
  limits : Limits
  text : Text
  word : Nat

namespace Cutter

/-- What stops a machine without an answer. -/
inductive Fault
  | underflow
  | overflow
  | divisionByZero
  | offBoundary
  | breach (cause : Breach)
  deriving DecidableEq, Repr

/-- The counters of the piece that is tried next. -/
structure Attempt where
  start : Nat
  startByte : Nat
  stop : Nat
  stopByte : Nat
  size : Nat
  deriving DecidableEq, Repr

/-- Where a machine stands: before its start, where the next piece is to be proposed, where a piece
is tried, where no more is given back, and at its end. -/
inductive State
  | entry
  | outer (start startByte : Nat) (made : List Fragment)
  | trying (a : Attempt) (made : List Fragment)
  | settled (a : Attempt) (made : List Fragment)
  | done (result : Except TooWide (List Fragment))

/-! ### Operations that can fault -/

def difference (a b : Nat) : Except Fault Nat := if b ≤ a then .ok (a - b) else .error .underflow

def quotient (a b : Nat) : Except Fault Nat := if b = 0 then .error .divisionByZero else .ok (a / b)

/-- A number, if it fits. -/
def fit (m : Cutter) (n : Nat) : Except Fault Nat := if n < m.word then .ok n else .error .overflow

/-- The size of a whole piece. The length of its encoding is known; a size under the other measure
is added up, and the sum fits if its last value does. -/
def sizeOf (m : Cutter) (piece : Text) : Except Fault Nat :=
  match m.limits.measure with
  | .utf8 => .ok (String.ofList piece).utf8ByteSize
  | .modifiedUtf8 => m.fit (m.limits.size piece)

def slice (m : Cutter) (startByte stopByte : Nat) : Except Fault Text :=
  match m.text.slice? startByte stopByte with
  | some piece => .ok piece
  | none => .error .offBoundary

/-- The text from an offset to its end. -/
def rest (m : Cutter) (startByte : Nat) : Except Fault Text := m.slice startByte m.text.utf8Size

/-! ### Steps -/

/-- The empty text has its one fragment at once. For any other text room is made for as many
fragments as its length calls for. -/
def enter (m : Cutter) : Except Fault State :=
  if m.text.length = 0 then .ok (.done (.ok [⟨0, 0, 0, 0, 0, []⟩]))
  else do
    let shares ← quotient m.text.length m.limits.maxLength
    let _ ← m.fit (shares + 1)
    return .outer 0 0 []

/-- The longest piece that the length cap allows. -/
def propose (m : Cutter) (start startByte : Nat) (made : List Fragment) : Except Fault State := do
  let rest ← m.rest startByte
  let left ← difference m.text.length start
  let proposed := min m.limits.maxLength left
  let stop ← m.fit (start + proposed)
  let stopByte ← m.fit (startByte + rest.byteOffset proposed)
  let piece ← m.slice startByte stopByte
  let size ← m.sizeOf piece
  return .trying ⟨start, startByte, stop, stopByte, size⟩ made

def finish (m : Cutter) (made : List Fragment) : Except Fault State :=
  match Audit.fragments m.limits m.text made with
  | .error cause => .error (.breach cause)
  | .ok () => .ok (.done (.ok made))

/-- Gives back one code point. A piece that has none to give back is left as it is. -/
def giveBack (m : Cutter) (a : Attempt) (made : List Fragment) : Except Fault State := do
  let piece ← m.slice a.startByte a.stopByte
  match piece.getLast? with
  | none => return .settled a made
  | some c =>
    let stop ← difference a.stop 1
    let stopByte ← difference a.stopByte c.utf8Size
    let size ← difference a.size (m.limits.width c)
    return .trying { a with stop, stopByte, size } made

/-- A piece that holds nothing is not for want of text: its first code point is too wide. -/
def refuse (m : Cutter) (a : Attempt) : Except Fault State := do
  let rest ← m.rest a.startByte
  let c := rest.headD '\x00'
  return .done (.error ⟨a.start, c, m.limits.width c, m.limits.maxBytes⟩)

def keep (m : Cutter) (a : Attempt) (made : List Fragment) : Except Fault State := do
  let piece ← m.slice a.startByte a.stopByte
  return .outer a.stop a.stopByte
    (made ++ [⟨made.length, a.start, a.stop, a.startByte, a.stopByte, piece⟩])

/-- What a machine does next. At its end it does nothing any more. -/
def step (m : Cutter) : State → Option (Except Fault State)
  | .entry => some m.enter
  | .outer start startByte made =>
    some (if start < m.text.length then m.propose start startByte made else m.finish made)
  | .trying a made =>
    some (if m.limits.maxBytes < a.size then m.giveBack a made else .ok (.settled a made))
  | .settled a made => some (if a.stop = a.start then m.refuse a else m.keep a made)
  | .done _ => none

/-- One state follows another. -/
def Next (m : Cutter) (s s' : State) : Prop := m.step s = some (.ok s')

/-- The states that a machine comes to, with the number of steps that it takes. -/
inductive Reaches (m : Cutter) : Nat → State → Prop
  | entry : m.Reaches 0 .entry
  | next {n : Nat} {s s' : State} (h : m.Reaches n s) (hnext : m.Next s s') :
      m.Reaches (n + 1) s'

end Cutter

end LiteralPack
