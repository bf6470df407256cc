import DiceNotation.Json.Field
import DiceNotation.Json.Parse
import DiceNotation.Json.Render
import DiceNotation.Roll

set_option autoImplicit false

namespace DiceNotation

open Json (Value)

def rollsJson (rolls : List Nat) : Value :=
  .array (rolls.map Value.ofNat)

def Sign.toJson (sign : Sign) : Value :=
  .ofText [sign.symbol]

def Spec.toJson (spec : Spec) : Value :=
  .record
    [("code", .ofText spec.code.toList),
      ("dice", .ofNat spec.dice),
      ("mode", .ofText spec.mode.name.toList),
      ("faces", .ofNat spec.faces),
      ("zero_based", .bool spec.zeroBased),
      ("threshold", .ofNat spec.threshold),
      ("sign", spec.sign.toJson),
      ("modifier", .ofNat spec.modifier)]

def Outcome.toJson (outcome : Outcome) : Value :=
  .record [("rolls", rollsJson outcome.rolls), ("total", .ofInt outcome.total)]

def Outcome.recordJson (spec : Spec) (outcome : Outcome) : Value :=
  .record
    [("code", .ofText spec.code.toList),
      ("rolls", rollsJson outcome.rolls),
      ("sign", spec.sign.toJson),
      ("modifier", .ofNat spec.modifier),
      ("total", .ofInt outcome.total)]

def Limits.toJson (limits : Limits) : Value :=
  .record
    [("max_explosions_per_die", .ofNat limits.extraPerDie),
      ("max_total_explosion_rounds", .ofNat limits.rounds)]

def Outcome.ofJson? (json : Value) : Option Outcome := do
  let [rolls, total] ← json.fields? ["rolls", "total"] | none
  return ⟨← (← rolls.items?).mapM Value.number?, ← total.total?⟩

def Limits.ofJson? (json : Value) : Option Limits := do
  let [perDie, rounds] ←
    json.fields? ["max_explosions_per_die", "max_total_explosion_rounds"] | none
  return ⟨← perDie.number?, ← rounds.number?⟩

def Die.ofJson? (json : Value) : Option Die := do
  let [faces, zeroBased] ← json.fields? ["faces", "zero_based"] | none
  return ⟨← faces.number?, ← zeroBased.bool?⟩

end DiceNotation
