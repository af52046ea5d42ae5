import HookRelay.Text.Lossy

/-!
# Command lines

A program is told its settings by options of the form `--name value` or `--name=value`. An option
that is not on the command line is taken from the environment. Arguments are read from left to
right; a value is looked at when the next option begins, and a value that is written into the
option's argument is looked at on the spot. Behind `--` there are no options, and nothing else
is expected.

## Main definitions

* `Setting` : an option, with the name under which the environment holds it
* `Refusal` : why a command line is refused
* `read` : the settings that a command line and an environment give
-/

namespace HookRelay.CommandLine

/-- What is wrong with the value of an option. -/
inductive Complaint where
  /-- The value is no text. -/
  | notText
  /-- The value does not fit, in words. -/
  | unfit (cause : String)
  deriving DecidableEq, Repr

/-- An option of a program. -/
structure Setting (σ : Type) where
  name : String
  /-- The name under which the environment holds the option. -/
  variable_ : String
  required : Bool
  /-- Reads the value and sets it. -/
  set : ByteArray → σ → Except Complaint σ

/-- How an option is shown, with a placeholder for its value. -/
def Setting.usage {σ : Type} (s : Setting σ) : String :=
  let placeholder := s.name.map fun c => if c = '-' then '_' else c.toUpper
  s!"--{s.name} <{placeholder}>"

/-- Why a command line is refused. -/
inductive Refusal where
  | unknown (argument : String)
  | repeated (usage : String)
  | noValue (usage : String)
  | needlessValue (option value : String)
  | unfit (usage value cause : String)
  | notText
  | missing (usages : List String)
  /-- The help is asked for. -/
  | help
  /-- The version is asked for. -/
  | version
  deriving DecidableEq, Repr

/-- Where the reading of a command line stands. -/
structure Reading (σ : Type) where
  settings : σ
  /-- The names of the options that were given. -/
  given : List String
  /-- An option whose value was not looked at yet, and the value if it is there. -/
  pending : Option (Setting σ × Option ByteArray)

namespace Reading

variable {σ : Type}

/-- Takes over the value of an option. -/
def give (s : Setting σ) (value : ByteArray) (r : Reading σ) : Except Refusal (Reading σ) :=
  if r.given.contains s.name then .error (.repeated s.usage)
  else
    match s.set value r.settings with
    | .ok settings => .ok { r with settings, given := s.name :: r.given }
    | .error .notText => .error .notText
    | .error (.unfit cause) => .error (.unfit s.usage (Text.shown value) cause)

/-- Looks at the value that was not looked at yet. -/
def settle (r : Reading σ) : Except Refusal (Reading σ) :=
  match r.pending with
  | none => .ok r
  | some (s, none) => .error (.noValue s.usage)
  | some (s, some value) => give s value { r with pending := none }

end Reading

/-- What an argument looks like. -/
inductive Shape where
  /-- The mark behind which there are no options. -/
  | endOfOptions
  /-- The name of an option, and the value if the argument holds it. -/
  | option (name : ByteArray) (value : Option ByteArray)
  /-- Short options, each a single character. -/
  | short (text : ByteArray)
  | plain

/-- The bytes of a list. -/
def ofBytes (l : List UInt8) : ByteArray := ⟨l.toArray⟩

/-- What an argument looks like. -/
def Shape.of (argument : ByteArray) : Shape :=
  match argument.toList with
  | [45, 45] => .endOfOptions
  | 45 :: 45 :: rest =>
    match rest.dropWhile (· != 61) with
    | [] => .option (ofBytes rest) none
    | _ :: value => .option (ofBytes (rest.takeWhile (· != 61))) (some (ofBytes value))
  | [45] => .plain
  | 45 :: rest => .short (ofBytes rest)
  | _ => .plain

/-- The names of the options that ask for the program's own texts. -/
def ownText? (name : String) : Option Refusal :=
  if name = "help" then some .help else if name = "version" then some .version else none

/-- The short names of the options that ask for the program's own texts. -/
def ownShort? (c : Char) : Option Refusal :=
  if c = 'h' then some .help else if c = 'V' then some .version else none

/-- Reads an option. -/
def readOption {σ : Type} (options : List (Setting σ)) (name : ByteArray)
    (value : Option ByteArray) (r : Reading σ) : Except Refusal (Reading σ) :=
  let shown := Text.shown name
  match options.find? (fun s => s.name.toUTF8.data = name.data) with
  | some s =>
    match r.settle, value with
    | .error e, _ => .error e
    | .ok r, some v => r.give s v
    | .ok r, none => .ok { r with pending := some (s, none) }
  | none =>
    match ownText? shown, value with
    | some own, none =>
      match r.settle with
      | .error e => .error e
      | .ok _ => .error own
    | some _, some v => .error (.needlessValue ("--" ++ shown) (Text.shown v))
    | none, _ => .error (.unknown ("--" ++ shown))

/-- Reads short options. -/
def readShort {σ : Type} (text : ByteArray) (r : Reading σ) : Except Refusal (Reading σ) :=
  match (Text.shown text).toList with
  | [] => .ok r
  | c :: _ =>
    match ownShort? c with
    | none => .error (.unknown (String.ofList ['-', c]))
    | some own =>
      match r.settle with
      | .error e => .error e
      | .ok _ => .error own

/-- Reads the arguments in order. Behind the mark that ends the options every argument is
unknown. -/
def readArguments {σ : Type} (options : List (Setting σ)) :
    List ByteArray → Reading σ → Except Refusal (Reading σ)
  | [], r => r.settle
  | a :: rest, r =>
    match Shape.of a with
    | .endOfOptions =>
      match rest with
      | [] => r.settle
      | b :: _ => .error (.unknown (Text.shown b))
    | .option name value =>
      match readOption options name value r with
      | .error e => .error e
      | .ok r => readArguments options rest r
    | .short text =>
      match readShort text r with
      | .error e => .error e
      | .ok r => readArguments options rest r
    | .plain =>
      match r.pending with
      | some (s, none) => readArguments options rest { r with pending := some (s, some a) }
      | _ => .error (.unknown (Text.shown a))

/-- An environment. -/
abbrev Environment := List (String × ByteArray)

/-- The value under a name. -/
def Environment.get? (name : String) (env : Environment) : Option ByteArray :=
  (env.find? fun e => e.1 = name).map Prod.snd

/-- The value under a name, if it is a text. -/
def Environment.text? (name : String) (env : Environment) : Option String :=
  (env.get? name).bind String.fromUTF8?

/-- Takes options that were not given from the environment. -/
def readEnvironment {σ : Type} (env : Environment) :
    List (Setting σ) → Reading σ → Except Refusal (Reading σ)
  | [], r => .ok r
  | s :: rest, r =>
    match r.given.contains s.name, env.get? s.variable_ with
    | false, some value =>
      match r.give s value with
      | .error e => .error e
      | .ok r => readEnvironment env rest r
    | _, _ => readEnvironment env rest r

/-- The settings that a command line and an environment give, beginning with defaults. -/
def read {σ : Type} (options : List (Setting σ)) (defaults : σ) (env : Environment)
    (arguments : List ByteArray) : Except Refusal σ := do
  let r ← readArguments options arguments ⟨defaults, [], none⟩
  let r ← readEnvironment env options r
  match (options.filter fun s => s.required && !r.given.contains s.name).map Setting.usage with
  | [] => .ok r.settings
  | usages => .error (.missing usages)

end HookRelay.CommandLine
