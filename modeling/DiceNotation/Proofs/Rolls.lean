import DiceNotation.Proofs.Explosions
import DiceNotation.Roll

set_option autoImplicit false

namespace DiceNotation

theorem length_mul_le_length_flatten {lists : List (List Nat)} {shortest : Nat}
    (each : ∀ list ∈ lists, shortest ≤ list.length) :
    lists.length * shortest ≤ lists.flatten.length := by
  induction lists with
  | nil => simp
  | cons list rest ih =>
    obtain ⟨here, others⟩ := List.forall_mem_cons.mp each
    have later := ih others
    simp only [List.flatten_cons, List.length_append, List.length_cons, Nat.succ_mul]
    omega

theorem length_le_length_flatten {lists : List (List Nat)} (each : ∀ list ∈ lists, list ≠ []) :
    lists.length ≤ lists.flatten.length := by
  have some_value : ∀ list ∈ lists, 1 ≤ list.length :=
    fun list member => List.length_pos_iff.mpr (each list member)
  simpa using length_mul_le_length_flatten some_value

namespace Die

theorem drew_explodeTotal (die : Die) (threshold dice : Nat) (limits : Limits)
    (rolls : List Nat) (source : WordSource) (position : Nat) :
    let drawn := (die.explodeTotal threshold dice limits rolls).run source position
    ∃ added, drawn.value = rolls ++ added ∧ die.Drew source position added drawn.position := by
  obtain ⟨count, -, values, reached⟩ := die.rounds_explodeRounds threshold dice
    limits.extraPerDie source limits.rounds 0 (Resolution.sum rolls) position
  refine ⟨_, rfl, ?_⟩
  simp only [explodeTotal, Draw.run_map, values, reached]
  exact drew_replicate_flatten
    (fun position => (die.chain_explode threshold limits.extraPerDie source position).2)
    count position

theorem roll_explode (die : Die) (threshold : Nat) (limits : Limits) :
    die.roll .explode threshold limits = die.explode threshold limits.extraPerDie :=
  if_pos rfl

theorem drew_roll (die : Die) (mode : Mode) (threshold : Nat) (limits : Limits)
    (source : WordSource) (position : Nat) :
    let drawn := (die.roll mode threshold limits).run source position
    die.Drew source position drawn.value drawn.position := by
  rw [roll]
  split
  · exact (die.chain_explode threshold limits.extraPerDie source position).2
  · exact drew_sample

theorem flatten_replicate_roll (die : Die) {mode : Mode} (plain : mode ≠ .explode)
    (threshold : Nat) (limits : Limits) (count : Nat) :
    List.flatten <$> Draw.replicate count (die.roll mode threshold limits) =
      Draw.replicate count die.sample := by
  simp [roll, plain, Draw.flatten_replicate_singleton]

end Die

namespace Spec

variable (limits : Limits) {spec : Spec}

theorem rollDice_of_plain (single : spec.mode ≠ .explode) (total : spec.mode ≠ .explodeAll) :
    spec.rollDice limits = Draw.replicate spec.dice spec.die.sample := by
  rw [← spec.die.flatten_replicate_roll single spec.threshold limits]
  simp [rollDice, total]

theorem rollDice_of_explode (single : spec.mode = .explode) :
    spec.rollDice limits =
      List.flatten <$> Draw.replicate spec.dice
        (spec.die.explode spec.threshold limits.extraPerDie) := by
  simp [rollDice, single, Die.roll]

theorem rollDice_of_explodeAll (total : spec.mode = .explodeAll) :
    spec.rollDice limits =
      Draw.replicate spec.dice spec.die.sample >>=
        spec.die.explodeTotal spec.threshold spec.dice limits := by
  have single : spec.mode ≠ .explode := by simp [total]
  rw [← spec.die.flatten_replicate_roll single spec.threshold limits]
  simp [rollDice, total]

theorem drew_rollDice (spec : Spec) (source : WordSource) (position : Nat) :
    let drawn := (spec.rollDice limits).run source position
    spec.die.Drew source position drawn.value drawn.position ∧
      spec.dice ≤ drawn.value.length := by
  by_cases single : spec.mode = .explode
  · have each (position : Nat) :=
      spec.die.chain_explode spec.threshold limits.extraPerDie source position
    have some_each := Draw.forall_mem_replicate (· ≠ [])
      (fun position => (each position).1.nonempty) spec.dice position
    rw [rollDice_of_explode limits single]
    refine ⟨Die.drew_replicate_flatten (fun position => (each position).2) spec.dice position, ?_⟩
    simpa [Draw.length_replicate] using length_le_length_flatten some_each
  · by_cases total : spec.mode = .explodeAll
    · have first := spec.die.drew_replicate_sample spec.dice source position
      rw [rollDice_of_explodeAll limits total]
      have count := Draw.length_replicate spec.dice spec.die.sample source position
      rw [Draw.run_bind]
      generalize (Draw.replicate spec.dice spec.die.sample).run source position = samples at *
      obtain ⟨added, values, more⟩ := spec.die.drew_explodeTotal spec.threshold spec.dice limits
        samples.value source samples.position
      dsimp only
      rw [values]
      exact ⟨first.append more, by simp [count]⟩
    · rw [rollDice_of_plain limits single total]
      exact ⟨spec.die.drew_replicate_sample spec.dice source position,
        Nat.le_of_eq (Draw.length_replicate ..).symm⟩

theorem roll_reports_samples (spec : Spec) (source : WordSource) (position : Nat) :
    let drawn := (spec.roll limits).run source position
    (∀ error, drawn.value = .error error ↔ spec.validate = .error error) ∧
    (∀ error, spec.validate = .error error → drawn.position = position) ∧
    (spec.validate = .ok () → ∃ outcome, drawn.value = .ok outcome ∧
      let samples := (Draw.replicate outcome.rolls.length spec.die.sample).run source position
      outcome.rolls = samples.value ∧ drawn.position = samples.position ∧
      spec.dice ≤ outcome.rolls.length ∧
      position + outcome.rolls.length ≤ drawn.position ∧
      drawn.position ≤ position + 2 * outcome.rolls.length ∧
      outcome.total =
        spec.sign.apply (spec.mode.resolve spec.threshold outcome.rolls) spec.modifier ∧
      (spec.mode ≠ .explode → spec.mode ≠ .explodeAll → outcome.rolls.length = spec.dice)) ∧
    (spec.validate = .ok () → spec.mode ≠ .explode → spec.mode ≠ .explodeAll →
      ∀ (other : Spec) (otherLimits : Limits), other.validate = .ok () →
        other.mode ≠ .explode → other.mode ≠ .explodeAll → other.dice = spec.dice →
        other.die = spec.die →
        let again := (other.roll otherLimits).run source position
        again.position = drawn.position ∧ ∃ outcome second, drawn.value = .ok outcome ∧
          again.value = .ok second ∧ second.rolls = outcome.rolls) := by
  refine ⟨?_, ?_, ?_, ?_⟩
  · intro error
    cases verdict : spec.validate with
    | error reason => simp [run_roll_of_error verdict]
    | ok => simp [run_roll_of_ok verdict]
  · intro error invalid
    rw [run_roll_of_error invalid]
  · intro valid
    obtain ⟨drew, enough⟩ := drew_rollDice limits spec source position
    rw [run_roll_of_ok valid]
    refine ⟨_, rfl, drew.1.symm, drew.2.symm, enough, drew.words.1, drew.words.2, rfl, ?_⟩
    intro single total
    rw [outcomeOf, rollDice_of_plain limits single total]
    exact Draw.length_replicate ..
  · intro valid single total other otherLimits otherValid otherSingle otherTotal dice die
    rw [run_roll_of_ok valid, run_roll_of_ok otherValid, rollDice_of_plain limits single total,
      rollDice_of_plain otherLimits otherSingle otherTotal, dice, die]
    exact ⟨rfl, _, _, rfl, rfl, rfl⟩

end Spec

end DiceNotation
