import DiceNotation.CommandLine.Options
import DiceNotation.Complaint
import DiceNotation.Json.Record
import DiceNotation.LogFilter
import DiceNotation.Seeded

set_option autoImplicit false

namespace DiceNotation.CommandLine

def checked (code : String) : Draw (Except CodeError Spec) :=
  match Spec.parse code with
  | .error error => return .error error
  | .ok spec => do
    Draw.note (.parsed spec)
    return spec.validate.map fun _ => spec

structure Printed where
  rolls : List (Spec × Outcome)
  failure : Option CodeError

def rollTimes (spec : Spec) : Nat → Draw Printed
  | 0 => return ⟨[], none⟩
  | times + 1 => do
    match ← spec.roll {} with
    | .error error => return ⟨[], some error⟩
    | .ok outcome =>
      let rest ← rollTimes spec times
      return ⟨(spec, outcome) :: rest.rolls, rest.failure⟩

def rollCode (times : Nat) (code : String) : Draw Printed := do
  match ← checked code with
  | .error error =>
    Draw.note (.refused error)
    return ⟨[], none⟩
  | .ok spec => rollTimes spec times

def rollCodes (times : Nat) : List String → Draw Printed
  | [] => return ⟨[], none⟩
  | code :: rest => do
    let first ← rollCode times code
    match first.failure with
    | some _ => return first
    | none =>
      let others ← rollCodes times rest
      return ⟨first.rolls ++ others.rolls, others.failure⟩

def rollAll (options : Options) : Draw Printed := do
  Draw.note (.started options.seed options.times options.codes.length)
  rollCodes options.times options.codes

def Form.text (form : Form) (spec : Spec) (outcome : Outcome) : String :=
  match form with
  | .line => outcome.line spec
  | .total => String.ofList (Decimal.signed outcome.total)
  | .json => String.ofList (outcome.recordJson spec).render

def eventLines (filter : LogFilter) (event : Event) : List String :=
  match event, event.level? with
  | .refused error, _ => error.complaint
  | _, some level => if filter.shows event level then [event.logLine level] else []
  | _, none => []

def isRefusal : Event → Bool
  | .refused _ => true
  | _ => false

def badCodes (bad : Nat) : String :=
  String.ofList (Decimal.digits bad) ++ " bad die code" ++ if bad = 1 then "" else "s"

def Printed.fault? (printed : Printed) (bad : Nat) : Option String :=
  match printed.failure with
  | some error => some error.message
  | none => if bad = 0 then none else some (badCodes bad)

structure Answer where
  output : List String
  errors : List String
  exit : Nat
deriving DecidableEq, Repr

def Options.answer (options : Options) (filter : LogFilter) (source : WordSource) : Answer :=
  let drawn := (rollAll options).run source 0
  let fault := drawn.value.fault? (drawn.events.countP isRefusal)
  { output := drawn.value.rolls.map fun (spec, outcome) => options.form.text spec outcome
    errors :=
      drawn.events.flatMap (eventLines filter) ++ (fault.map ("error: " ++ ·)).toList
    exit := if fault.isSome then 1 else 0 }

structure Environment where
  ownFilter : Option String
  sharedFilter : Option String

-- There is none if a variable that is tried would be cut inside a character.
def firstFilter (fallback : LogFilter) : List (Option String) → Option LogFilter
  | [] => some fallback
  | none :: others => firstFilter fallback others
  | some text :: others =>
    match LogFilter.read text with
    | .ok filter => some filter
    | .error .unreadable => firstFilter fallback others
    | .error .splitCharacter => none

def Environment.filter? (environment : Environment) (verbose : Bool) : Option LogFilter :=
  firstFilter (.ofLevel (if verbose then .debug else .warn))
    [environment.ownFilter, environment.sharedFilter]

def versionLine : String := "droll 1.0.1"

def helpLines : List String :=
  ["Roll dice from tabletop RPG die codes",
    "",
    "Usage: droll [OPTIONS] <CODES>...",
    "",
    "Codes look like [count]<type>[0]<faces>[.threshold][+/-modifier]:",
    "  d  sum           3d6+2",
    "  x  explode       3x4.3+7",
    "  e  explode all   3e4",
    "  k  keep highest  4k6.3",
    "  K  keep lowest   2K20",
    "  n  count >= t    6n10.6",
    "  N  count <= t    6N10.5",
    "",
    "A leading 0 on the faces (3d03) numbers the die from 0.",
    "",
    "Options:",
    "  -s, --seed <SEED>    RNG seed for repeatable rolls",
    "  -n, --times <TIMES>  Roll each code this many times [default: 1]",
    "  -t, --total-only     Print only the total of each roll",
    "      --json           Print each roll as a JSON object",
    "  -v, --verbose        Log parsing and rolling details to stderr",
    "  -h, --help           Print help",
    "  -V, --version        Print version"]

def answer (arguments : List String) (environment : Environment) (unseeded : WordSource) : Answer :=
  match Request.ofArguments arguments with
  | .version => ⟨[versionLine], [], 0⟩
  | .help => ⟨helpLines, [], 0⟩
  | .refused usage => ⟨[], ["error: " ++ usage.message], 2⟩
  | .roll options =>
    let source := match options.seed with
      | some seed => Seeded.words seed
      | none => unseeded
    match environment.filter? options.verbose with
    | some filter => options.answer filter source
    -- Such a run breaks off before its first roll.
    | none => ⟨[], [], 101⟩

end DiceNotation.CommandLine
