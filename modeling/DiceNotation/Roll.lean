import DiceNotation.Explosion

set_option autoImplicit false

namespace DiceNotation

structure Outcome where
  rolls : List Nat
  total : Int
deriving DecidableEq, Repr

namespace Outcome

def count (outcome : Outcome) : Nat :=
  outcome.rolls.length

def rawSum (outcome : Outcome) : Nat :=
  Resolution.sum outcome.rolls

end Outcome

namespace Spec

def rollDice (limits : Limits) (spec : Spec) : Draw (List Nat) := do
  let dice ← Draw.replicate spec.dice (spec.die.roll spec.mode spec.threshold limits)
  if spec.mode = .explodeAll then
    spec.die.explodeTotal spec.threshold spec.dice limits dice.flatten
  else
    return dice.flatten

def outcomeOf (spec : Spec) (rolls : List Nat) : Outcome :=
  ⟨rolls, spec.sign.apply (spec.mode.resolve spec.threshold rolls) spec.modifier⟩

def roll (limits : Limits) (spec : Spec) : Draw (Except CodeError Outcome) :=
  match spec.validate with
  | .error error => do
    Draw.note (.rollRefused error)
    return .error error
  | .ok () => do
    let outcome ← spec.outcomeOf <$> spec.rollDice limits
    Draw.note (.rolled spec.code outcome.rolls outcome.total)
    return .ok outcome

variable {limits : Limits} {spec : Spec}

theorem run_roll_of_error {error : CodeError} (invalid : spec.validate = .error error)
    (source : WordSource) (position : Nat) :
    (spec.roll limits).run source position = ⟨.error error, position, [.rollRefused error]⟩ := by
  simp [roll, invalid]

theorem run_roll_of_ok (valid : spec.validate = .ok ()) (source : WordSource) (position : Nat) :
    (spec.roll limits).run source position =
      let drawn := (spec.rollDice limits).run source position
      let outcome := spec.outcomeOf drawn.value
      ⟨.ok outcome, drawn.position,
        drawn.events ++ [.rolled spec.code outcome.rolls outcome.total]⟩ := by
  simp [roll, valid]

end Spec

end DiceNotation
