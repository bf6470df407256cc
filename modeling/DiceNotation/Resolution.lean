import DiceNotation.Mode

set_option autoImplicit false

namespace DiceNotation

namespace Resolution

-- The instances are named so that the sum is the same term whatever else a module imports.
abbrev sum (rolls : List Nat) : Nat :=
  @List.sum Nat instAddNat ⟨0⟩ rolls

def highest (rolls : List Nat) (count : Nat) : Nat :=
  sum ((rolls.mergeSort (· ≥ ·)).take count)

def lowest (rolls : List Nat) (count : Nat) : Nat :=
  sum ((rolls.mergeSort (· ≤ ·)).take count)

def atOrAbove (rolls : List Nat) (threshold : Nat) : Nat :=
  rolls.countP (threshold ≤ ·)

def atOrBelow (rolls : List Nat) (threshold : Nat) : Nat :=
  rolls.countP (· ≤ threshold)

end Resolution

def Mode.resolve (mode : Mode) (threshold : Nat) (rolls : List Nat) : Nat :=
  match mode with
  | .sum | .explode | .explodeAll => Resolution.sum rolls
  | .keepHighest => Resolution.highest rolls threshold
  | .keepLowest => Resolution.lowest rolls threshold
  | .countMin => Resolution.atOrAbove rolls threshold
  | .countMax => Resolution.atOrBelow rolls threshold

end DiceNotation
