import LiteralPack.Run

/-!
The arguments of the program. Options come behind the subcommand they belong to, each at most
once; a value stands behind its option or is attached to it. Reading stops at the first argument
that asks for help or cannot be used.
-/

namespace LiteralPack.CommandLine

inductive Command
  | generate (options : Options)
  | inspect (manifest : Path)
  deriving DecidableEq, Repr

/-- Why there is no command to run. -/
inductive Stop
  | help
  | usage
  deriving DecidableEq, Repr

/-- What an argument looks like on its own. -/
inductive Form
  | escape
  | long (name : Text) (value : Option Text)
  | short (letter : Char) (rest : Text)
  | plain
  deriving DecidableEq, Repr

def formOf (argument : String) : Form :=
  match argument.toList with
  | ['-', '-'] => .escape
  | '-' :: '-' :: rest =>
    match Text.splitFirst? (· == '=') rest with
    | some (name, value) => .long name (some value)
    | none => .long rest none
  | '-' :: letter :: rest => .short letter rest
  | _ => .plain

/-- The options of `generate` that take a value. -/
inductive Key
  | manifest
  | output
  | target
  | container
  deriving DecidableEq, Repr

def Key.ofName? (name : Text) : Option Key :=
  match String.ofList name with
  | "manifest" => some .manifest
  | "output" => some .output
  | "target" => some .target
  | "container" => some .container
  | _ => none

def Key.ofLetter? : Char → Option Key
  | 'm' => some .manifest
  | 'o' => some .output
  | 't' => some .target
  | _ => none

/-- The options read so far. -/
structure Draft where
  manifest : Option Path := none
  output : Option Path := none
  target : Option Target := none
  container : Option String := none
  verify : Bool := false
  deriving DecidableEq, Repr

/-- A path, which is not empty. -/
def pathOf (value : String) : Except Stop Path :=
  if value.isEmpty then .error .usage else .ok ⟨value⟩

def targetOf (value : String) : Except Stop Target :=
  match Manifest.targets.find? (·.1 == value) with
  | some (_, target) => .ok target
  | none => .error .usage

namespace Draft

def isSet (d : Draft) : Key → Bool
  | .manifest => d.manifest.isSome
  | .output => d.output.isSome
  | .target => d.target.isSome
  | .container => d.container.isSome

def set (d : Draft) (key : Key) (value : String) : Except Stop Draft := do
  if d.isSet key then throw .usage
  match key with
  | .manifest => return { d with manifest := some (← pathOf value) }
  | .output => return { d with output := some (← pathOf value) }
  | .target => return { d with target := some (← targetOf value) }
  | .container => return { d with container := some value }

def setVerify (d : Draft) : Except Stop Draft :=
  if d.verify then .error .usage else .ok { d with verify := true }

def finish (d : Draft) : Except Stop Command :=
  match d.manifest, d.output with
  | some manifest, some output =>
    .ok (.generate ⟨manifest, output, ⟨d.target, d.container⟩, d.verify⟩)
  | _, _ => .error .usage

end Draft

/-- The value attached to a short option, with or without an equals sign. -/
def attached? : Text → Option Text
  | [] => none
  | '=' :: value => some value
  | value => some value

/-- What the next argument of `generate` asks for. -/
inductive Request
  | help
  | verify
  | value (key : Key) (attached : Option Text)
  deriving DecidableEq, Repr

def request? : Form → Option Request
  | .long name none =>
    match String.ofList name with
    | "help" => some .help
    | "verify" => some .verify
    | _ => (Key.ofName? name).map (.value · none)
  | .long name (some value) => (Key.ofName? name).map (.value · (some value))
  | .short 'h' _ => some .help
  | .short letter rest => (Key.ofLetter? letter).map (.value · (attached? rest))
  | .escape | .plain => none

def generate (d : Draft) : List String → Except Stop Command
  | [] => d.finish
  | argument :: rest =>
    if formOf argument = .escape then if rest.isEmpty then d.finish else .error .usage
    else
      match request? (formOf argument), rest with
      | none, _ => .error .usage
      | some .help, _ => .error .help
      | some .verify, rest => do generate (← d.setVerify) rest
      | some (.value key (some value)), rest => do generate (← d.set key (String.ofList value)) rest
      | some (.value _ none), [] => .error .usage
      | some (.value key none), value :: rest =>
        if formOf value = .plain then do generate (← d.set key value) rest else .error .usage

/-- Arguments that all stand for themselves, of which `inspect` takes one. -/
def inspectPlain : Option Path → List String → Except Stop Command
  | some path, [] => .ok (.inspect path)
  | none, [argument] => (pathOf argument).map .inspect
  | _, _ => .error .usage

def inspect (path : Option Path) : List String → Except Stop Command
  | [] => inspectPlain path []
  | argument :: rest =>
    match formOf argument with
    | .escape => inspectPlain path rest
    | .long name none => .error (if String.ofList name = "help" then .help else .usage)
    | .short 'h' _ => .error .help
    | .long _ _ | .short _ _ => .error .usage
    | .plain =>
      match path with
      | some _ => .error .usage
      | none => do inspect (some (← pathOf argument)) rest

/-- Help on at most one subcommand. -/
def helpOn : List String → Stop
  | [] => .help
  | [name] => if ["generate", "inspect", "help"].contains name then .help else .usage
  | _ => .usage

/-- What an argument in place of a subcommand asks for. -/
def front (argument : String) : Stop :=
  match formOf argument with
  | .long name none => if ["help", "version"].contains (String.ofList name) then .help else .usage
  | .short 'h' _ | .short 'V' _ => .help
  | _ => .usage

/-- The command that the arguments behind the name of the program ask for. -/
def parse : List String → Except Stop Command
  | [] => .error .usage
  | "generate" :: rest => generate {} rest
  | "inspect" :: rest => inspect none rest
  | "help" :: rest => .error (helpOn rest)
  | argument :: _ => .error (front argument)

end LiteralPack.CommandLine
