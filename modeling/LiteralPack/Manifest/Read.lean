import LiteralPack.Json.Record
import LiteralPack.Manifest

/-!
Manifests as JSON. A draft holds the fields read so far; required fields are looked for when the
record ends, and the other fields have defaults.
-/

namespace LiteralPack.Manifest

open Json

def targets : List (String × Target) := [("java", .java), ("kotlin", .kotlin)]

def measures : List (String × Measure) := [("utf8", .utf8), ("modified-utf8", .modifiedUtf8)]

structure CapsDraft where
  maxLength : Option Nat := none
  maxBytes : Option Nat := none
  measure : Option Measure := none

def capsFields : List (RecordField CapsDraft) :=
  [⟨"maxLength", (·.maxLength.isSome), fun d => return { d with maxLength := ← natural wordMax }⟩,
   ⟨"maxBytes", (·.maxBytes.isSome), fun d => return { d with maxBytes := ← natural wordMax }⟩,
   ⟨"byteMeasure", (·.measure.isSome), fun d => return { d with measure := ← variant measures }⟩]

def CapsDraft.finish (d : CapsDraft) : Except String Caps :=
  let c : Caps := {}
  .ok {
    maxLength := d.maxLength.getD c.maxLength
    maxBytes := d.maxBytes.getD c.maxBytes
    measure := d.measure.getD c.measure }

def capsReader : Reader Caps := record capsFields {} CapsDraft.finish

structure EntryDraft where
  interface : Option String := none
  member : Option String := none
  path : Option String := none

def entryFields : List (RecordField EntryDraft) :=
  [⟨"interface", (·.interface.isSome), fun d => return { d with interface := ← string }⟩,
   ⟨"member", (·.member.isSome), fun d => return { d with member := ← string }⟩,
   ⟨"path", (·.path.isSome), fun d => return { d with path := ← string }⟩]

def required (name : String) : Option α → Except String α
  | some a => .ok a
  | none => .error name

def EntryDraft.finish (d : EntryDraft) : Except String Entry := do
  let interface ← required "interface" d.interface
  let member ← required "member" d.member
  let path ← required "path" d.path
  return { interface, member, path := ⟨path⟩ }

def entryReader : Reader Entry := record entryFields {} EntryDraft.finish

structure Draft where
  version : Option Nat := none
  target : Option Target := none
  package : Option String := none
  container : Option String := none
  partPrefix : Option String := none
  caps : Option Caps := none
  entries : Option (List Entry) := none

/-- A version is a word of 32 bits. -/
def fields : List (RecordField Draft) :=
  [⟨"version", (·.version.isSome), fun d => return { d with version := ← natural 0xFFFFFFFF }⟩,
   ⟨"target", (·.target.isSome), fun d => return { d with target := ← variant targets }⟩,
   ⟨"package", (·.package.isSome), fun d => return { d with package := ← string }⟩,
   ⟨"container", (·.container.isSome), fun d => return { d with container := ← string }⟩,
   ⟨"fragmentPrefix", (·.partPrefix.isSome), fun d => return { d with partPrefix := ← string }⟩,
   ⟨"limits", (·.caps.isSome), fun d => return { d with caps := ← capsReader }⟩,
   ⟨"declarations", (·.entries.isSome), fun d => return { d with entries := ← list entryReader }⟩]

def Draft.finish (d : Draft) : Except String Manifest := do
  let version ← required "version" d.version
  let entries ← required "declarations" d.entries
  let m : Manifest := { version, entries }
  return {
    version, entries
    target := d.target.getD m.target
    package := d.package.getD m.package
    container := d.container.getD m.container
    partPrefix := d.partPrefix.getD m.partPrefix
    caps := d.caps.getD m.caps }

/-- Reads the text of a manifest. -/
def read (source : Text) : Except ReadError Manifest :=
  Reader.readAll (record fields {} Draft.finish) source

end LiteralPack.Manifest
