import DiceNotation.Roll

set_option autoImplicit false

namespace DiceNotation

structure Width where
  least : Int
  greatest : Int

namespace Width

def word : Width :=
  ⟨0, largestNumber⟩

def long : Width :=
  ⟨0, UInt64.size - 1⟩

def signedLong : Width :=
  ⟨Int64.minValue.toInt, Int64.maxValue.toInt⟩

def Holds (width : Width) (number : Int) : Prop :=
  width.least ≤ number ∧ number ≤ width.greatest

instance (width : Width) (number : Int) : Decidable (width.Holds number) :=
  inferInstanceAs (Decidable (_ ∧ _))

def check (width : Width) (number : Int) : OptionT Draw Unit :=
  if width.Holds number then pure () else failure

def fit (width : Width) (number : Nat) : OptionT Draw Nat := do
  width.check number
  return number

-- Every sum on the way has to fit, not the last alone.
def sum (width : Width) : (total : Nat) → List Nat → OptionT Draw Nat
  | total, [] => return total
  | total, roll :: rest => do
    let next ← width.fit (total + roll)
    width.sum next rest

-- The factors always fit a long word; their product may not.
def target (threshold dice round : Nat) : OptionT Draw Nat := do
  let factor ← long.fit (dice + round)
  long.fit (threshold * factor)

end Width

def checkedReplicate {α : Type} : Nat → OptionT Draw α → OptionT Draw (List α)
  | 0, _ => return []
  | count + 1, draw => do
    let first ← draw
    (first :: ·) <$> checkedReplicate count draw

namespace Die

def checkedExplodeFrom (die : Die) (threshold : Nat) :
    (remaining extra latest : Nat) → OptionT Draw (List Nat)
  | 0, extra, latest =>
    if threshold ≤ latest then do
      Draw.note (.dieCapped extra threshold)
      return []
    else
      return []
  | remaining + 1, extra, latest =>
    if threshold ≤ latest then do
      let value ← die.sample
      Draw.note (.dieExploded value)
      let next ← Width.word.fit (extra + 1)
      (value :: ·) <$> die.checkedExplodeFrom threshold remaining next value
    else
      return []

def checkedExplode (die : Die) (threshold cap : Nat) : OptionT Draw (List Nat) := do
  let first ← die.sample
  (first :: ·) <$> die.checkedExplodeFrom threshold cap 0 first

def checkedRoll (die : Die) (mode : Mode) (threshold : Nat) (limits : Limits) :
    OptionT Draw (List Nat) :=
  if mode = .explode then die.checkedExplode threshold limits.extraPerDie
  else List.singleton <$> die.sample

-- The total is not carried along: every round sums up all values anew.
def checkedRounds (die : Die) (threshold dice cap : Nat) :
    (remaining round : Nat) → (rolls : List Nat) → OptionT Draw (List Nat)
  | 0, round, rolls => do
    let total ← Width.long.sum 0 rolls
    let target ← Width.target threshold dice round
    if target ≤ total then do
      Draw.note (.totalCapped round total target)
      return []
    else
      return []
  | remaining + 1, round, rolls => do
    let total ← Width.long.sum 0 rolls
    let target ← Width.target threshold dice round
    if target ≤ total then do
      Draw.note (.totalExploded round total target)
      let added ← die.checkedExplode threshold cap
      let next ← Width.word.fit (round + 1)
      (added ++ ·) <$> die.checkedRounds threshold dice cap remaining next (rolls ++ added)
    else
      return []

def checkedExplodeTotal (die : Die) (threshold dice : Nat) (limits : Limits) (rolls : List Nat) :
    OptionT Draw (List Nat) :=
  (rolls ++ ·) <$> die.checkedRounds threshold dice limits.extraPerDie limits.rounds 0 rolls

end Die

def Mode.checkedResolve (mode : Mode) (threshold : Nat) (rolls : List Nat) : OptionT Draw Nat :=
  match mode with
  | .sum | .explode | .explodeAll => Width.signedLong.sum 0 rolls
  | .keepHighest => Width.signedLong.sum 0 ((rolls.mergeSort (· ≥ ·)).take threshold)
  | .keepLowest => Width.signedLong.sum 0 ((rolls.mergeSort (· ≤ ·)).take threshold)
  | .countMin => Width.signedLong.fit (Resolution.atOrAbove rolls threshold)
  | .countMax => Width.signedLong.fit (Resolution.atOrBelow rolls threshold)

namespace Spec

def checkedRollDice (limits : Limits) (spec : Spec) : OptionT Draw (List Nat) := do
  let dice ← checkedReplicate spec.dice (spec.die.checkedRoll spec.mode spec.threshold limits)
  if spec.mode = .explodeAll then
    spec.die.checkedExplodeTotal spec.threshold spec.dice limits dice.flatten
  else
    return dice.flatten

def checkedRoll (limits : Limits) (spec : Spec) : OptionT Draw (Except CodeError Outcome) :=
  match spec.validate with
  | .error error => do
    Draw.note (.rollRefused error)
    return .error error
  | .ok () => do
    let rolls ← spec.checkedRollDice limits
    let value ← spec.mode.checkedResolve spec.threshold rolls
    let total := spec.sign.apply value spec.modifier
    Width.signedLong.check total
    Draw.note (.rolled spec.code rolls total)
    return .ok ⟨rolls, total⟩

end Spec

def Agrees {α : Type} (source : WordSource) (position : Nat) (checked : OptionT Draw α)
    (draw : Draw α) : Prop :=
  checked.run.run source position =
    let drawn := draw.run source position
    ⟨some drawn.value, drawn.position, drawn.events⟩

section Agrees

variable {α β : Type} {source : WordSource} {position : Nat}

theorem agrees_pure (value : α) : Agrees source position (pure value) (pure value) :=
  rfl

theorem agrees_lift (draw : Draw α) : Agrees source position (liftM draw) draw := by
  change (OptionT.lift draw).run.run source position = _
  simp [OptionT.run_lift]

theorem Agrees.bind {checked : OptionT Draw α} {draw : Draw α} {next : α → OptionT Draw β}
    {later : α → Draw β} (first : Agrees source position checked draw)
    (rest : Agrees source (draw.run source position).position
      (next (draw.run source position).value) (later (draw.run source position).value)) :
    Agrees source position (checked >>= next) (draw >>= later) := by
  simp only [Agrees] at first rest ⊢
  simp [OptionT.run_bind, Option.elimM, first, rest]

theorem Agrees.map {checked : OptionT Draw α} {draw : Draw α}
    (same : Agrees source position checked draw) (change : α → β) :
    Agrees source position (change <$> checked) (change <$> draw) := by
  simp only [Agrees] at same ⊢
  simp [OptionT.run_map, same]

theorem Agrees.check {width : Width} {number : Int} {next : Unit → OptionT Draw α} {draw : Draw α}
    (holds : width.Holds number) (rest : Agrees source position (next ()) draw) :
    Agrees source position (width.check number >>= next) draw := by
  rw [Width.check, if_pos holds, pure_bind]
  exact rest

theorem Width.fit_of_holds {width : Width} {number : Nat} (holds : width.Holds number) :
    width.fit number = pure number := by
  rw [fit, check, if_pos holds, pure_bind]

theorem Agrees.fit {width : Width} {number : Nat} {next : Nat → OptionT Draw α} {draw : Draw α}
    (holds : width.Holds number) (rest : Agrees source position (next number) draw) :
    Agrees source position (width.fit number >>= next) draw := by
  rw [Width.fit_of_holds holds, pure_bind]
  exact rest

theorem Agrees.replicate {checked : OptionT Draw α} {draw : Draw α}
    (each : ∀ position, Agrees source position checked draw) (count position : Nat) :
    Agrees source position (checkedReplicate count checked) (Draw.replicate count draw) := by
  induction count generalizing position with
  | zero => exact agrees_pure []
  | succ count ih => exact (each position).bind ((ih _).map _)

end Agrees

end DiceNotation
