set_option autoImplicit false

namespace DiceNotation

structure Die where
  faces : Nat
  zeroBased : Bool
deriving DecidableEq, Repr

namespace Die

def min (die : Die) : Nat :=
  if die.zeroBased then 0 else 1

-- A die numbered from 1 that has no faces always shows a 1.
def max (die : Die) : Nat :=
  Nat.max die.faces die.min

def size (die : Die) : Nat :=
  die.max - die.min + 1

theorem min_le_max (die : Die) : die.min ≤ die.max :=
  Nat.le_max_right ..

theorem size_pos (die : Die) : 0 < die.size :=
  Nat.succ_pos _

end Die

end DiceNotation
