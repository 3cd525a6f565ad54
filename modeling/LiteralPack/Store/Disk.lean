import LiteralPack.Measure
import LiteralPack.Store
import Std.Data.TreeMap

/-!
A file tree in memory, seen from its working directory. A location is the list of names that lead
to a node. `..` names lead out of the working directory, and absolute paths start at the root;
there, nothing is known but that these places are directories.
-/

namespace LiteralPack

abbrev Location := List Text

inductive Node
  | file (bytes : ByteArray)
  | directory
  deriving Inhabited

structure Disk where
  nodes : Std.TreeMap Location Node := {}
  deriving Inhabited

namespace Disk

def up : Text := ['.', '.']

/-- The root of the tree. No other name has a slash in it. -/
def root : Location := [['/']]

/-- The working directory, all directories above it, and the root are always there. -/
def isGiven (l : Location) : Bool := l.all (· == up) || l == root

/-- What lies at a location. -/
def node? (d : Disk) (l : Location) : Option Node :=
  if isGiven l then some .directory else d.nodes[l]?

def put (d : Disk) (l : Location) (n : Node) : Disk := ⟨d.nodes.insert l n⟩

theorem node?_put_self (d : Disk) {l : Location} (h : isGiven l = false) (n : Node) :
    (d.put l n).node? l = some n := by
  simp [node?, put, h]

theorem node?_put_of_ne (d : Disk) {l other : Location} (h : other ≠ l) (n : Node) :
    (d.put l n).node? other = d.node? other := by
  have hc : ¬ compare l other = .eq := fun e => h (Std.LawfulEqOrd.eq_of_compare e).symm
  simp [node?, put, Std.TreeMap.getElem?_insert, hc]

/-- Checks that a location is a directory. -/
def enter (d : Disk) (l : Location) : Except StoreFault Unit :=
  match d.node? l with
  | some .directory => .ok ()
  | some (.file _) => .error .notDirectory
  | none => .error .notFound

/-- The directory that a location lies in. The root lies in itself. -/
def above (l : Location) : Location :=
  if l == root then root else if l.all (· == up) then l ++ [up] else l.dropLast

/-- Whether a segment of a path stays where it is. -/
def stays (segment : Text) : Bool := segment.isEmpty || segment == ['.']

/-- The longest name, in bytes. -/
def maxName : Nat := 255

/-- Follows the segments of a path from a location. All nodes on the way must be directories. -/
def follow (d : Disk) (l : Location) : List Text → Except StoreFault Location
  | [] => .ok l
  | s :: rest => do
    d.enter l
    if stays s then follow d l rest
    else if s == up then follow d (above l) rest
    else if maxName < s.utf8Size then throw .nameTooLong
    else follow d (l ++ [s]) rest

/-- The longest path, in bytes. -/
def maxPath : Nat := 4095

/-- The location that a path starts from. -/
def start (p : Path) : Except StoreFault Location :=
  if p.text.toList.contains '\x00' then .error .invalidName
  else if maxPath < p.text.utf8ByteSize then .error .nameTooLong
  else if p.text.isEmpty then .error .notFound
  else .ok (if p.isAbsolute then root else [])

/-- The location that a path leads to, whether or not something lies there. -/
def locate (d : Disk) (p : Path) : Except StoreFault Location := do
  d.follow (← start p) p.segments

def read (d : Disk) (p : Path) : Except StoreFault ByteArray := do
  match d.node? (← d.locate p) with
  | some (.file bytes) => return bytes
  | some .directory => throw .isDirectory
  | none => throw .notFound

def write (d : Disk) (p : Path) (bytes : ByteArray) : Except StoreFault Disk := do
  let l ← d.locate p
  match d.node? l with
  | some .directory => throw .isDirectory
  | _ => return d.put l (.file bytes)

/-- Makes a directory at the end of a path, unless there is one. Slashes at the end do not count. -/
def makeLast (d : Disk) (l : Location) (segments : List Text) : Except StoreFault Unit × Disk :=
  match d.follow l (segments.reverse.dropWhile (·.isEmpty)).reverse with
  | .error fault => (.error fault, d)
  | .ok l =>
    match d.node? l with
    | some .directory => (.ok (), d)
    | some (.file _) => (.error .exists, d)
    | none => (.ok (), d.put l .directory)

/-- Follows segments from a location and makes the directories that are missing on the way. -/
def makeWay (d : Disk) (l : Location) : List Text → Except StoreFault Unit × Disk
  | [] => (.ok (), d)
  | s :: rest =>
    if stays s then makeWay d l rest
    else if s == up then makeWay d (above l) rest
    else if maxName < s.utf8Size then (.error .nameTooLong, d)
    else
      match d.node? (l ++ [s]) with
      | some .directory => makeWay d (l ++ [s]) rest
      | some (.file _) => (.error .notDirectory, d)
      | none => makeWay (d.put (l ++ [s]) .directory) (l ++ [s]) rest

/-- Makes a directory and those it lies in. What was made stays if a later step fails. -/
def makeDirs (d : Disk) (p : Path) : Except StoreFault Unit × Disk :=
  if p.text.isEmpty then (.ok (), d)
  else
    match start p with
    | .error fault => (.error fault, d)
    | .ok l =>
      match d.makeWay l (p.parent?.elim [] Path.segments) with
      | (.error fault, made) => (.error fault, made)
      | (.ok (), made) => made.makeLast l p.segments

/-! ### Between runs

A run neither removes anything nor lists what there is. Those who use it do: they clear away what an
earlier run has made, and look which files are there when a run has ended.
-/

/-- Removes a file, or a directory with all that lies in it. -/
def remove (d : Disk) (p : Path) : Disk :=
  match d.locate p with
  | .ok l => ⟨d.nodes.filter fun location _ => !l.isPrefixOf location⟩
  | .error _ => d

/-- Whether a location is reached from another by going down. -/
def liesBelow (l location : Location) : Bool :=
  l.isPrefixOf location &&
    match location.drop l.length with
    | [] => false
    | s :: _ => s != up && [s] != root

/-- The files below a directory, as paths from where the directory itself is seen. -/
def filesBelow (d : Disk) (p : Path) : List Path :=
  match d.locate p with
  | .error _ => []
  | .ok l =>
    d.nodes.toList.filterMap fun (location, n) =>
      match n with
      | .file _ =>
        if liesBelow l location then
          some ((location.drop l.length).foldl (fun q s => q.join ⟨String.ofList s⟩) p)
        else none
      | .directory => none

end Disk

instance : FileStore (StateM Disk) where
  read p := return (← get).read p
  makeDirs p := modifyGet fun d => d.makeDirs p
  write p bytes := modifyGet fun d =>
    match d.write p bytes with
    | .ok written => (.ok (), written)
    | .error fault => (.error fault, d)

end LiteralPack
