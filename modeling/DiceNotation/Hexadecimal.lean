set_option autoImplicit false

namespace DiceNotation.Hexadecimal

def digit? (c : Char) : Option Nat :=
  if c.isDigit then some (c.toNat - '0'.toNat)
  else if 'a' ≤ c ∧ c ≤ 'f' then some (c.toNat - 'a'.toNat + 10)
  else if 'A' ≤ c ∧ c ≤ 'F' then some (c.toNat - 'A'.toNat + 10)
  else none

def value? (text : List Char) : Option Nat :=
  (text.mapM digit?).map fun digits => digits.foldl (16 * · + ·) 0

end DiceNotation.Hexadecimal
