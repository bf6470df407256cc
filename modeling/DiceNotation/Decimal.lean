set_option autoImplicit false

namespace DiceNotation.Decimal

def digits (value : Nat) : List Char :=
  Nat.toDigits 10 value

def value (text : List Char) : Nat :=
  Nat.ofDigitChars 10 text 0

@[simp] theorem value_digits (n : Nat) : value (digits n) = n :=
  Nat.ofDigitChars_toDigits (by decide) (by decide)

theorem isDigit_of_mem_digits {n : Nat} {c : Char} (member : c ∈ digits n) : c.isDigit = true :=
  Nat.isDigit_of_mem_toDigits (by decide) (by decide) member

theorem digits_ne_nil (n : Nat) : digits n ≠ [] :=
  Nat.toDigits_ne_nil

def below? (bound : Nat) (text : List Char) : Option Nat :=
  if text ≠ [] ∧ text.all Char.isDigit ∧ value text < bound then some (value text) else none

def unsigned? (bound : Nat) : List Char → Option Nat
  | '+' :: text => below? bound text
  | text => below? bound text

def dropSign : List Char → List Char
  | '+' :: text | '-' :: text => text
  | text => text

def isRun (text : List Char) : Bool :=
  text ≠ [] && text.all Char.isDigit

-- The words for infinity and for what is no number count as numbers too.
def isReal (text : List Char) : Bool :=
  let body := dropSign text
  let mantissa := body.takeWhile fun c => c ≠ 'e' ∧ c ≠ 'E'
  let whole := mantissa.takeWhile (· ≠ '.')
  let fraction := (mantissa.dropWhile (· ≠ '.')).drop 1
  let power := match body.drop mantissa.length with
    | [] => true
    | _ :: power => isRun (dropSign power)
  (isRun (whole ++ fraction) && power) ||
    ["inf", "infinity", "nan"].any fun word => word.toList = body.map Char.toLower

def signed : Int → List Char
  | .ofNat value => digits value
  | .negSucc value => '-' :: digits (value + 1)

end DiceNotation.Decimal
