import DiceNotation.Limits
import DiceNotation.Resolution
import DiceNotation.Sampling

set_option autoImplicit false

namespace DiceNotation.Die

-- The extra values of a die that showed `latest`: at most `remaining`, of `cap` in all.
def explodeFrom (die : Die) (threshold cap : Nat) : (remaining latest : Nat) → Draw (List Nat)
  | 0, latest =>
    if threshold ≤ latest then do
      Draw.note (.dieCapped cap threshold)
      return []
    else
      return []
  | remaining + 1, latest =>
    if threshold ≤ latest then do
      let value ← die.sample
      Draw.note (.dieExploded value)
      (value :: ·) <$> die.explodeFrom threshold cap remaining value
    else
      return []

theorem explodeFrom_of_lt (die : Die) {threshold latest : Nat} (cap remaining : Nat)
    (low : latest < threshold) : die.explodeFrom threshold cap remaining latest = pure [] := by
  cases remaining <;> simp [explodeFrom, Nat.not_le.2 low]

def explode (die : Die) (threshold cap : Nat) : Draw (List Nat) := do
  let first ← die.sample
  (first :: ·) <$> die.explodeFrom threshold cap cap first

-- Only the dice of mode `explode` explode one by one.
def roll (die : Die) (mode : Mode) (threshold : Nat) (limits : Limits) : Draw (List Nat) :=
  if mode = .explode then die.explode threshold limits.extraPerDie
  else List.singleton <$> die.sample

-- The values that the rounds from `round` on add to a roll of `dice` dice worth `total` so far.
def explodeRounds (die : Die) (threshold dice cap : Nat) :
    (remaining round total : Nat) → Draw (List Nat)
  | 0, round, total =>
    if threshold * (dice + round) ≤ total then do
      Draw.note (.totalCapped round total (threshold * (dice + round)))
      return []
    else
      return []
  | remaining + 1, round, total =>
    if threshold * (dice + round) ≤ total then do
      Draw.note (.totalExploded round total (threshold * (dice + round)))
      let added ← die.explode threshold cap
      (added ++ ·) <$>
        die.explodeRounds threshold dice cap remaining (round + 1)
          (total + Resolution.sum added)
    else
      return []

theorem explodeRounds_of_lt (die : Die) {threshold dice round total : Nat} (cap remaining : Nat)
    (low : total < threshold * (dice + round)) :
    die.explodeRounds threshold dice cap remaining round total = pure [] := by
  cases remaining <;> simp [explodeRounds, Nat.not_le.2 low]

def explodeTotal (die : Die) (threshold dice : Nat) (limits : Limits) (rolls : List Nat) :
    Draw (List Nat) :=
  (rolls ++ ·) <$>
    die.explodeRounds threshold dice limits.extraPerDie limits.rounds 0 (Resolution.sum rolls)

end DiceNotation.Die
