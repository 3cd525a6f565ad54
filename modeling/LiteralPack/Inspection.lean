import LiteralPack.ByteCount
import LiteralPack.Plan
import LiteralPack.Terminal.Box
import LiteralPack.Terminal.Mark

/-!
The plans of a manifest as lines for a terminal.
-/

namespace LiteralPack.Inspection

open Terminal

def measureName : Measure → String
  | .utf8 => "Utf8"
  | .modifiedUtf8 => "ModifiedUtf8"

def settingsRows (s : Settings) : List String :=
  let package := if s.package.isEmpty then "(default)" else s.package
  [s!" target      {s.target.name}",
   s!" package     {package}",
   s!" container   {s.container}",
   s!" limits      {s.limits.maxLength} code points │ " ++
      s!"{s.limits.maxBytes} bytes │ {measureName s.limits.measure}"]

def fragmentRow (screen : Screen) (limits : Limits) (size : FragmentSize) (name : String) :
    String :=
  let bytes := padLeft (toString size.bytes) 8
  s!"     {padRight name 18} {bytes} {screen.gauge size.bytes limits.maxBytes 20}"

def planRows (screen : Screen) (limits : Limits) (p : Plan) : List String :=
  let name := padRight (screen.paint .cyan p.typeName) 20
  let badge := padRight (screen.badge p.isChunked) 10
  let path := screen.gray (truncatePath p.path.text 34)
  [s!" {screen.mark true} {name} {badge} {path}",
   s!"     {p.chars} code points │ {byteCount p.bytes} │ {p.fragments.length} fragment(s)"]
    ++ p.fragments.zipWith (fragmentRow screen limits) p.partNames

def failureRows (screen : Screen) (f : Failure) : List String :=
  [s!" {screen.mark false} {screen.paint .red f.interface}", s!"     {f.cause.message}"]

def rows (screen : Screen) (limits : Limits) : Except Failure Plan → List String
  | .ok p => planRows screen limits p
  | .error f => failureRows screen f

def boxed (screen : Screen) (label : String) (content : List String) : List String :=
  screen.sectionTop label :: content.map screen.row ++ [screen.sectionBottom]

def lines (screen : Screen) (path : Path) (s : Settings) (plans : List (Except Failure Plan)) :
    List String :=
  screen.title s!"LITSPLIT {path.text}"
    ++ [""]
    ++ boxed screen "CONFIGURATION" (settingsRows s)
    ++ [""]
    ++ boxed screen "DECLARATIONS" (plans.flatMap (rows screen s.limits))

def isSuccess (plans : List (Except Failure Plan)) : Bool := plans.all (·.toOption.isSome)

end LiteralPack.Inspection
