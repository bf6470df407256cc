import DiceNotation.Json.Value
import DiceNotation.Spec

set_option autoImplicit false

namespace DiceNotation.Json

def only? {α : Type} : List α → Option α
  | [value] => some value
  | _ => none

namespace Value

-- An object may hold others among them; an array holds these alone, in their order.
def fields? (names : List String) : Value → Option (List Value)
  | .array items => if items.length = names.length then some items else none
  | .object members => do
    let named ← members.mapM fun (key, value) => (text? key).map fun text => (text, value)
    names.mapM fun name =>
      only? (named.filterMap fun (key, value) => if key = name.toList then some value else none)
  | _ => none

def bool? : Value → Option Bool
  | .bool value => some value
  | _ => none

def items? : Value → Option (List Value)
  | .array items => some items
  | _ => none

-- A number with a fraction or an exponent is no integer, and neither is `-0`.
def int? : Value → Option Int
  | .number ('-' :: digits) =>
    if digits.all Char.isDigit ∧ Decimal.value digits ≠ 0 then some (-(Decimal.value digits))
    else none
  | .number digits => if digits.all Char.isDigit then some (Decimal.value digits) else none
  | _ => none

def number? (value : Value) : Option Nat := do
  let number ← value.int?
  if 0 ≤ number ∧ number ≤ largestNumber then some number.toNat else none

def total? (value : Value) : Option Int := do
  let number ← value.int?
  if -9223372036854775808 ≤ number ∧ number ≤ 9223372036854775807 then some number else none

end Value

end DiceNotation.Json
