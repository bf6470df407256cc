import DiceNotation.Event
import DiceNotation.ResultLine
import DiceNotation.Text.Quoted

set_option autoImplicit false

namespace DiceNotation

inductive Level where
  | off
  | error
  | warn
  | info
  | debug
  | trace
deriving DecidableEq, Repr

namespace Level

def rank : Level → Nat
  | .off => 0
  | .error => 1
  | .warn => 2
  | .info => 3
  | .debug => 4
  | .trace => 5

def name : Level → String
  | .off => "off"
  | .error => "error"
  | .warn => "warn"
  | .info => "info"
  | .debug => "debug"
  | .trace => "trace"

def all : List Level :=
  [.off, .error, .warn, .info, .debug, .trace]

def label (level : Level) : List Char :=
  let name := level.name.toList.map Char.toUpper
  List.replicate (5 - name.length) ' ' ++ name

end Level

namespace Event

-- That the program refuses a code is no log line: it is told at every level.
def level? : Event → Option Level
  | .started .. | .parsed _ | .rollRefused _ | .rolled .. => some .debug
  | .dieExploded _ | .totalExploded .. => some .trace
  | .dieCapped .. | .totalCapped .. => some .warn
  | .refused _ => none

def message : Event → String
  | .started .. => "rolling"
  | .parsed _ => "parsed die code"
  | .refused error => error.message
  | .rollRefused _ => "refusing to roll"
  | .rolled .. => "rolled"
  | .dieExploded _ => "die exploded"
  | .dieCapped .. => "explosion cap reached for one die"
  | .totalExploded .. => "total exploded"
  | .totalCapped .. => "explode-on-total cap reached"

def seedText : Option UInt64 → List Char
  | none => "None".toList
  | some seed => "Some(".toList ++ Decimal.digits seed.toNat ++ [')']

def boolText (value : Bool) : List Char :=
  (if value then "true" else "false").toList

def specFields (spec : Spec) : List (String × List Char) :=
  [("code", Text.quote spec.code.toList),
    ("dice", Decimal.digits spec.dice),
    ("mode", [spec.mode.letter]),
    ("faces", Decimal.digits spec.faces),
    ("zero_based", boolText spec.zeroBased),
    ("threshold", Decimal.digits spec.threshold),
    ("sign", [spec.sign.symbol]),
    ("modifier", Decimal.digits spec.modifier)]

def roundFields (round total target : Nat) : List (String × List Char) :=
  [("round", Decimal.digits round),
    ("total", Decimal.digits total),
    ("target", Decimal.digits target)]

def fields : Event → List (String × List Char)
  | .started seed times codes =>
    [("seed", seedText seed), ("times", Decimal.digits times), ("codes", Decimal.digits codes)]
  | .parsed spec => specFields spec
  | .refused _ => []
  | .rollRefused error =>
    [("code", Text.quote error.code.toList), ("error", error.message.toList)]
  | .rolled code rolls total =>
    [("code", Text.quote code.toList), ("rolls", rollsText rolls), ("total", Decimal.signed total)]
  | .dieExploded value => [("value", Decimal.digits value)]
  | .dieCapped extra threshold =>
    [("extra", Decimal.digits extra), ("threshold", Decimal.digits threshold)]
  | .totalExploded round total target | .totalCapped round total target =>
    roundFields round total target

def logLine (level : Level) (event : Event) : String :=
  String.ofList <|
    level.label ++ [' '] ++ event.message.toList ++
      event.fields.flatMap fun (name, text) => ' ' :: name.toList ++ '=' :: text

end Event

end DiceNotation
