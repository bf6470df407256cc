import DiceNotation.Proofs.Truncation
import DiceNotation.Proofs.Validation

set_option autoImplicit false

namespace DiceNotation

theorem Die.max_eq_faces {die : Die} (some_face : 1 ≤ die.faces) : die.max = die.faces := by
  refine Nat.max_eq_left (Nat.le_trans ?_ some_face)
  rw [Die.min]
  split <;> decide

def Sign.remove : Sign → Int → Nat → Int
  | .plus, total, modifier => total - modifier
  | .minus, total, modifier => total + modifier

theorem Sign.remove_apply (sign : Sign) (value : Int) (modifier : Nat) :
    sign.remove (sign.apply value modifier) modifier = value := by
  cases sign <;> simp only [apply, remove] <;> omega

section Chains

variable {threshold cap low : Nat}

theorem Chain.le_sum {chain : List Nat} (closed : Chain threshold cap chain)
    (each : ∀ roll ∈ chain, low ≤ roll) :
    threshold * chain.length + low ≤ Resolution.sum chain + threshold := by
  obtain ⟨front, last, rfl⟩ : ∃ front last, chain = front ++ [last] :=
    ⟨_, _, (List.dropLast_concat_getLast closed.nonempty).symm⟩
  have exploded : ∀ value ∈ front, threshold ≤ value := by simpa using closed.exploded
  have front_sum : front.length * threshold ≤ Resolution.sum front :=
    List.card_nsmul_le_sum front threshold exploded
  have last_low := each last (by simp)
  rw [Nat.mul_comm] at front_sum
  simp only [List.length_append, List.length_singleton, Resolution.sum, List.sum_append,
    List.sum_singleton, Nat.mul_succ] at front_sum ⊢
  omega

theorem le_sum_flatten {chains : List (List Nat)}
    (closed : ∀ chain ∈ chains, Chain threshold cap chain)
    (each : ∀ roll ∈ chains.flatten, low ≤ roll) :
    threshold * chains.flatten.length + chains.length * low ≤
      Resolution.sum chains.flatten + threshold * chains.length := by
  induction chains with
  | nil => simp
  | cons chain rest ih =>
    rw [List.flatten_cons] at each
    have later := ih (fun other member => closed other (by simp [member]))
      fun roll member => each roll (List.mem_append_right _ member)
    have here := (closed chain (by simp)).le_sum
      fun roll member => each roll (List.mem_append_left _ member)
    simp only [List.flatten_cons, List.length_append, List.length_cons, Resolution.sum,
      List.sum_append, Nat.mul_add, Nat.add_mul] at later here ⊢
    omega

end Chains

-- The last round that was added found its target met.
theorem Rounds.le_sum {threshold dice remaining total : Nat} {added : List (List Nat)}
    (rounds : Rounds threshold dice remaining 0 total added) (some_round : 1 ≤ added.length) :
    threshold * (dice + added.length - 1) ≤ total + Resolution.sum added.flatten := by
  have met := rounds.met (added.length - 1) (by omega)
  have part := Rounds.sum_take_flatten_le added (added.length - 1)
  rw [Nat.zero_add, ← Nat.add_sub_assoc some_round] at met
  omega

namespace Spec

def Promises (limits : Limits) (spec : Spec) (rolls : List Nat) (raw : Nat) : Prop :=
  let low := if spec.zeroBased then 0 else 1
  let count := rolls.length
  match spec.mode with
  | .sum => count = spec.dice ∧ spec.dice * low ≤ raw ∧ raw ≤ spec.dice * spec.faces
  | .keepHighest | .keepLowest =>
    let kept := min spec.threshold spec.dice
    kept * low ≤ raw ∧ raw ≤ kept * spec.faces
  | .countMin | .countMax => raw ≤ spec.dice
  | .explode =>
    spec.dice ≤ count ∧ count ≤ spec.dice * (limits.extraPerDie + 1) ∧
      spec.threshold * (count - spec.dice) + spec.dice * low ≤ raw ∧ raw ≤ count * spec.faces
  | .explodeAll =>
    let rounds := (spec.chains limits rolls).length
    count * low ≤ raw ∧ raw ≤ count * spec.faces ∧ rounds ≤ limits.rounds ∧
      spec.dice + rounds ≤ count ∧ count ≤ spec.dice + rounds * (limits.extraPerDie + 1) ∧
      (1 ≤ rounds → spec.threshold * (spec.dice + rounds - 1) ≤ raw)

variable {spec : Spec}

theorem between_of_valid (valid : spec.validate = .ok ()) {source : WordSource}
    {position after : Nat} {rolls : List Nat} (drew : spec.die.Drew source position rolls after) :
    ∀ roll ∈ rolls, spec.die.min ≤ roll ∧ roll ≤ spec.faces := by
  have top : spec.die.max = spec.faces := Die.max_eq_faces (faces_pos_of_valid valid)
  rw [← top]
  exact drew.mem

theorem length_rollDice_le (limits : Limits) (spec : Spec) (source : WordSource)
    (position : Nat) :
    ((spec.rollDice limits).run source position).value.length ≤
      Nat.max (spec.dice * (limits.extraPerDie + 1))
        (spec.dice + limits.rounds * (limits.extraPerDie + 1)) := by
  by_cases single : spec.mode = .explode
  · obtain ⟨chains, values, count, closed⟩ := chains_rollDice limits single source position
    rw [values, ← count]
    exact Nat.le_trans (length_flatten_le closed) (Nat.le_max_left ..)
  · refine Nat.le_trans ?_ (Nat.le_max_right ..)
    by_cases total : spec.mode = .explodeAll
    · obtain ⟨count, values, -, -, closed, rounds⟩ :=
        rounds_rollDice limits total source position
      have longest := length_flatten_le closed
      have most := Nat.mul_le_mul_right (limits.extraPerDie + 1) rounds.length_le
      rw [values, List.length_append, Draw.length_replicate]
      omega
    · rw [rollDice_of_plain limits single total, Draw.length_replicate]
      exact Nat.le_add_right ..

section Promises

variable {limits : Limits} {rolls : List Nat}

theorem promises_of_plain (single : spec.mode ≠ .explode) (total : spec.mode ≠ .explodeAll)
    (count : rolls.length = spec.dice)
    (each : ∀ roll ∈ rolls, spec.die.min ≤ roll ∧ roll ≤ spec.faces) :
    spec.Promises limits rolls (spec.mode.resolve spec.threshold rolls) := by
  have counted (test : Nat → Bool) : rolls.countP test ≤ spec.dice :=
    count ▸ List.countP_le_length
  have kept := Resolution.sum_take_mergeSort_between each
  have sums := Resolution.sum_between each
  rw [count] at kept sums
  cases mode : spec.mode <;> simp only [Promises, mode]
  case sum => exact ⟨count, sums⟩
  case explode => exact absurd mode single
  case explodeAll => exact absurd mode total
  case keepHighest => exact kept _ spec.threshold
  case keepLowest => exact kept _ spec.threshold
  case countMin => exact counted _
  case countMax => exact counted _

theorem promises_of_chains (single : spec.mode = .explode) {chains : List (List Nat)}
    (count : chains.length = spec.dice)
    (closed : ∀ chain ∈ chains, Chain spec.threshold limits.extraPerDie chain)
    (each : ∀ roll ∈ chains.flatten, spec.die.min ≤ roll ∧ roll ≤ spec.faces) :
    spec.Promises limits chains.flatten (spec.mode.resolve spec.threshold chains.flatten) := by
  have shortest := length_le_length_flatten fun chain member => (closed chain member).nonempty
  have longest := length_flatten_le closed
  have lowest := le_sum_flatten closed fun roll member => (each roll member).1
  have highest := (Resolution.sum_between each).2
  have parts := Nat.mul_sub spec.threshold chains.flatten.length chains.length
  have covered := Nat.mul_le_mul_left spec.threshold shortest
  rw [count] at shortest longest lowest parts covered
  simp only [Promises, single]
  refine ⟨shortest, longest, ?_, highest⟩
  change _ + spec.dice * spec.die.min ≤ Resolution.sum chains.flatten
  omega

theorem promises_of_rounds (total : spec.mode = .explodeAll) {dice : List Nat}
    {added : List (List Nat)} (count : dice.length = spec.dice)
    (cut : spec.chains limits (dice ++ added.flatten) = added)
    (closed : ∀ chain ∈ added, Chain spec.threshold limits.extraPerDie chain)
    (rounds : Rounds spec.threshold spec.dice limits.rounds 0 (Resolution.sum dice) added)
    (each : ∀ roll ∈ dice ++ added.flatten, spec.die.min ≤ roll ∧ roll ≤ spec.faces) :
    spec.Promises limits (dice ++ added.flatten)
      (spec.mode.resolve spec.threshold (dice ++ added.flatten)) := by
  have shortest := length_le_length_flatten fun chain member => (closed chain member).nonempty
  have longest := length_flatten_le closed
  have length := @List.length_append _ dice added.flatten
  obtain ⟨lowest, highest⟩ := Resolution.sum_between each
  have last := rounds.le_sum
  rw [Resolution.sum, Resolution.sum, ← List.sum_append] at last
  simp only [Promises, total, cut]
  exact ⟨lowest, highest, rounds.length_le, by omega, by omega, last⟩

theorem promises_rollDice (limits : Limits) (valid : spec.validate = .ok ()) (source : WordSource)
    (position : Nat) :
    let rolls := ((spec.rollDice limits).run source position).value
    spec.Promises limits rolls (spec.mode.resolve spec.threshold rolls) := by
  have each := between_of_valid valid (drew_rollDice limits spec source position).1
  by_cases single : spec.mode = .explode
  · obtain ⟨chains, values, count, closed⟩ := chains_rollDice limits single source position
    dsimp only
    rw [values] at each ⊢
    exact promises_of_chains single count closed each
  · by_cases total : spec.mode = .explodeAll
    · have length := Draw.length_replicate spec.dice spec.die.sample source position
      obtain ⟨count, values, -, cut, closed, rounds⟩ :=
        rounds_rollDice limits total source position
      dsimp only
      rw [values] at each ⊢
      exact promises_of_rounds total length cut closed rounds each
    · refine promises_of_plain single total ?_ each
      rw [rollDice_of_plain limits single total]
      exact Draw.length_replicate ..

end Promises

theorem roll_keeps_promises (limits : Limits) (valid : spec.validate = .ok ())
    (source : WordSource) (position : Nat) :
    let drawn := (spec.roll limits).run source position
    ∃ (outcome : Outcome) (raw : Nat), drawn.value = .ok outcome ∧
      (raw : Int) = spec.sign.remove outcome.total spec.modifier ∧
      (∀ roll ∈ outcome.rolls, (if spec.zeroBased then 0 else 1) ≤ roll ∧ roll ≤ spec.faces) ∧
      spec.Promises limits outcome.rolls raw ∧
      (spec.mode = .explodeAll →
        let dice := (Draw.replicate spec.dice spec.die.sample).run source position
        let rounds := spec.chains limits outcome.rolls
        let added := (Draw.replicate rounds.length
          (spec.die.roll .explode spec.threshold limits)).run source dice.position
        outcome.rolls = dice.value ++ added.value.flatten ∧ drawn.position = added.position) := by
  have drew := (drew_rollDice limits spec source position).1
  rw [run_roll_of_ok valid]
  refine ⟨_, _, rfl, (Sign.remove_apply ..).symm, between_of_valid valid drew,
    promises_rollDice limits valid source position, ?_⟩
  intro total
  have explode : spec.die.roll .explode spec.threshold limits =
      spec.die.explode spec.threshold limits.extraPerDie := if_pos rfl
  obtain ⟨count, values, reached, cut, -⟩ := rounds_rollDice limits total source position
  have rounds : (spec.chains limits ((spec.rollDice limits).run source position).value).length =
      count := by
    rw [values, cut]
    exact Draw.length_replicate ..
  dsimp only [outcomeOf]
  rw [rounds, explode]
  exact ⟨values, reached⟩

theorem capped_round_keeps_promises :
    let spec : Spec := ⟨"2e6-9", 2, .explodeAll, 6, false, 6, .minus, 9⟩
    let drawn := (spec.roll ⟨0, 1⟩).run (fun _ => 4294967295) 0
    spec.validate = .ok () ∧ drawn.value = .ok ⟨[6, 6, 6], 9⟩ ∧
      spec.Promises ⟨0, 1⟩ [6, 6, 6] 18 := by
  intro spec drawn
  have valid : spec.validate = .ok () := by decide
  have rolled : drawn.value = .ok ⟨[6, 6, 6], 9⟩ := by decide +kernel
  obtain ⟨outcome, raw, found, removed, -, promises, -⟩ :=
    roll_keeps_promises ⟨0, 1⟩ valid (fun _ => 4294967295) 0
  obtain rfl : outcome = ⟨[6, 6, 6], 9⟩ := Except.ok.inj (found.symm.trans rolled)
  obtain rfl : raw = 18 := Int.ofNat.inj removed
  exact ⟨valid, rolled, promises⟩

end Spec

end DiceNotation
