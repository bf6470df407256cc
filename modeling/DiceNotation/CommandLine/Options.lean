import DiceNotation.Decimal

set_option autoImplicit false

namespace DiceNotation.CommandLine

inductive Form where
  | line
  | total
  | json
deriving DecidableEq, Repr

structure Options where
  seed : Option UInt64
  times : Nat
  form : Form
  verbose : Bool
  codes : List String
deriving DecidableEq, Repr

inductive Usage where
  | unknownOption (argument : String)
  | givenTwice (name : String)
  | unreadableNumber (name text : String)
  | missingValue (name : String)
  | unexpectedValue (name : String)
  | conflict
  | noCodes
deriving DecidableEq, Repr

namespace Usage

def message : Usage → String
  | .unknownOption argument => "unexpected argument '" ++ argument ++ "'"
  | .givenTwice name => "the argument '--" ++ name ++ "' cannot be used multiple times"
  | .unreadableNumber name text => "invalid value '" ++ text ++ "' for '--" ++ name ++ "'"
  | .missingValue name => "a value is required for '--" ++ name ++ "'"
  | .unexpectedValue name => "unexpected value for '--" ++ name ++ "'"
  | .conflict => "the argument '--total-only' cannot be used with '--json'"
  | .noCodes => "no die codes were given"

end Usage

inductive Request where
  | roll (options : Options)
  | version
  | help
  | refused (usage : Usage)
deriving DecidableEq, Repr

inductive Flag where
  | totalOnly
  | json
  | verbose
deriving DecidableEq, Repr

def Flag.name : Flag → String
  | .totalOnly => "total-only"
  | .json => "json"
  | .verbose => "verbose"

inductive Setting where
  | seed
  | times
deriving DecidableEq, Repr

def Setting.name : Setting → String
  | .seed => "seed"
  | .times => "times"

-- A number of times may be minus nought; a seed has no sign but plus.
def Setting.read? : Setting → List Char → Option Nat
  | .times, '-' :: text => Decimal.below? 1 text
  | .times, text => Decimal.unsigned? UInt32.size text
  | .seed, text => Decimal.unsigned? UInt64.size text

inductive Switch where
  | flag (flag : Flag)
  | setting (setting : Setting)
  | version
  | help
deriving DecidableEq, Repr

def Switch.ofLetter? : Char → Option Switch
  | 's' => some (.setting .seed)
  | 'n' => some (.setting .times)
  | 't' => some (.flag .totalOnly)
  | 'v' => some (.flag .verbose)
  | 'V' => some .version
  | 'h' => some .help
  | _ => none

-- No shorter form of a name is known.
def Switch.ofName? : String → Option Switch
  | "seed" => some (.setting .seed)
  | "times" => some (.setting .times)
  | "total-only" => some (.flag .totalOnly)
  | "json" => some (.flag .json)
  | "verbose" => some (.flag .verbose)
  | "version" => some .version
  | "help" => some .help
  | _ => none

structure Given where
  settings : List (Setting × Nat) := []
  flags : List Flag := []
  codes : List String := []
deriving DecidableEq, Repr

namespace Given

def raise (given : Given) (flag : Flag) : Except Request Given :=
  if flag ∈ given.flags then .error (.refused (.givenTwice flag.name))
  else .ok { given with flags := flag :: given.flags }

def set (given : Given) (setting : Setting) (text : List Char) : Except Request Given :=
  if (given.settings.lookup setting).isSome then .error (.refused (.givenTwice setting.name))
  else
    match setting.read? text with
    | some value => .ok { given with settings := (setting, value) :: given.settings }
    | none => .error (.refused (.unreadableNumber setting.name (String.ofList text)))

-- The value of a setting is the rest of the argument if there is any, else the next argument.
def takeLetters (given : Given) : List Char → Except Request (Given × Option Setting)
  | [] => .ok (given, none)
  | letter :: rest =>
    match Switch.ofLetter? letter, rest with
    | none, _ => .error (.refused (.unknownOption (String.ofList ['-', letter])))
    | some .version, _ => .error .version
    | some .help, _ => .error .help
    | some (.flag flag), rest => do
      let given ← given.raise flag
      given.takeLetters rest
    | some (.setting setting), [] => .ok (given, some setting)
    | some (.setting setting), '=' :: value => (given.set setting value).map (·, none)
    | some (.setting setting), value => (given.set setting value).map (·, none)

def takeName (given : Given) (text : List Char) : Except Request (Given × Option Setting) :=
  let name := String.ofList (text.takeWhile (· ≠ '='))
  match Switch.ofName? name, text.dropWhile (· ≠ '=') with
  | none, _ => .error (.refused (.unknownOption ("--" ++ name)))
  | some (.setting setting), [] => .ok (given, some setting)
  | some (.setting setting), _ :: value => (given.set setting value).map (·, none)
  | some _, _ :: _ => .error (.refused (.unexpectedValue name))
  | some .version, [] => .error .version
  | some .help, [] => .error .help
  | some (.flag flag), [] => (given.raise flag).map (·, none)

def addCodes (given : Given) (codes : List String) : Given :=
  { given with codes := given.codes ++ codes }

-- A dash by itself is a code.
def take (given : Given) (argument : String) : Except Request (Given × Option Setting) :=
  match argument.toList with
  | '-' :: '-' :: name => given.takeName name
  | '-' :: letter :: letters => given.takeLetters (letter :: letters)
  | _ => .ok (given.addCodes [argument], none)

-- The `pending` setting is one whose value comes next.
def read (given : Given) (pending : Option Setting) : List String → Except Request Given
  | [] =>
    match pending with
    | none => .ok given
    | some setting => .error (.refused (.missingValue setting.name))
  | argument :: rest =>
    match pending with
    | some setting =>
      if argument.toList.head? = some '-' then
        .error (.refused (.missingValue setting.name))
      else do
        let given ← given.set setting argument.toList
        given.read none rest
    | none =>
      if argument = "--" then
        .ok (given.addCodes rest)
      else do
        let (given, pending) ← given.take argument
        given.read pending rest

def form (given : Given) : Form :=
  if .json ∈ given.flags then .json
  else if .totalOnly ∈ given.flags then .total
  else .line

def request (given : Given) : Request :=
  if given.codes.isEmpty then .refused .noCodes
  else if .json ∈ given.flags ∧ .totalOnly ∈ given.flags then .refused .conflict
  else
    .roll
      { seed := (given.settings.lookup .seed).map UInt64.ofNat
        times := (given.settings.lookup .times).getD 1
        form := given.form
        verbose := .verbose ∈ given.flags
        codes := given.codes }

end Given

def Request.ofArguments (arguments : List String) : Request :=
  match Given.read {} none arguments with
  | .ok given => given.request
  | .error request => request

end DiceNotation.CommandLine
