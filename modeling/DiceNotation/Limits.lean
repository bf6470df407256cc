set_option autoImplicit false

namespace DiceNotation

-- A roll that reaches a limit still succeeds, with the dice it has.
structure Limits where
  extraPerDie : Nat := 1000
  rounds : Nat := 1000
deriving DecidableEq, Repr, Inhabited

end DiceNotation
