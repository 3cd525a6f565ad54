import LiteralPack.Text.Words

/-!
Paths, written as texts with `/` between their segments. A path keeps the text it was given; two
paths name the same file when their components agree, where empty segments and inner `.` segments
do not count.
-/

namespace LiteralPack

structure Path where
  text : String
  deriving DecidableEq, Inhabited, Repr

namespace Path

def isAbsolute (p : Path) : Bool := p.text.toList.head? == some '/'

/-- A path followed by the path `q`, which is seen from it. Both this and the path in front are
given in reverse. -/
def append (front q : Text) : Text :=
  if q.head? = some '/' ∨ front = [] then q.reverse
  else if front.head? = some '/' then q.reverse ++ front
  else q.reverse ++ '/' :: front

/-- The path `q` as seen from the directory `p`. -/
def join (p q : Path) : Path :=
  ⟨String.ofList (append p.text.toList.reverse q.text.toList).reverse⟩

/-- Segments one below the other. -/
def joinAll (segments : List Text) : Path := ⟨String.ofList (segments.foldl append []).reverse⟩

theorem joinAll_concat (segments : List Text) (s : Text) :
    joinAll (segments ++ [s]) = (joinAll segments).join ⟨String.ofList s⟩ := by
  simp [joinAll, join]

def segments (p : Path) : List Text := Text.segments (· == '/') p.text.toList

def countsWithin (segment : Text) : Bool := segment != [] && segment != ['.']

/-- The components of a path. A `.` counts only at the beginning of a relative path. -/
def components (p : Path) : List Text :=
  if p.isAbsolute then p.segments.filter countsWithin
  else
    match p.segments with
    | [] => []
    | s :: rest => (if s == [] then [] else [s]) ++ rest.filter countsWithin

/-- What two paths have in common when they name the same file. The key of an absolute path starts
with a slash. -/
def key (p : Path) : List Text := if p.isAbsolute then ['/'] :: p.components else p.components

/-- Drops the separators and `.` segments at the end of a path, which is given in reverse. -/
def dropEnd : Text → Text
  | ['/'] => ['/']
  | ['.', '/'] => ['/']
  | '/' :: rest => dropEnd rest
  | '.' :: '/' :: rest => dropEnd rest
  | rest => rest

/-- The path without its last component, if it has one. -/
def parent? (p : Path) : Option Path :=
  match dropEnd p.text.toList.reverse with
  | [] => none
  | ['/'] => none
  | t => some ⟨String.ofList (dropEnd (t.dropWhile (· ≠ '/'))).reverse⟩

/-- The directory that the file of a path lies in. -/
def directory (p : Path) : Path := p.parent?.getD ⟨"."⟩

end Path

end LiteralPack
