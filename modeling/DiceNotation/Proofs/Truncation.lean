import DiceNotation.Proofs.Chains
import DiceNotation.Proofs.Rounds

set_option autoImplicit false

namespace DiceNotation

def Settled (threshold : Nat) (chain : List Nat) : Prop :=
  ∀ last ∈ chain.getLast?, last < threshold

instance (threshold : Nat) (chain : List Nat) : Decidable (Settled threshold chain) :=
  inferInstanceAs (Decidable (∀ last ∈ chain.getLast?, last < threshold))

namespace Die

variable {die : Die} {threshold cap higher : Nat} {source : WordSource}

theorem run_explodeFrom_of_settled {remaining more : Nat} (fewer : remaining ≤ more)
    (latest position : Nat)
    (settled : Settled threshold
      (latest :: ((die.explodeFrom threshold cap remaining latest).run source position).value)) :
    (die.explodeFrom threshold higher more latest).run source position =
      (die.explodeFrom threshold cap remaining latest).run source position := by
  induction remaining generalizing more latest position with
  | zero =>
    have low : latest < threshold := by
      by_cases high : threshold ≤ latest <;> simpa [explodeFrom, high, Settled] using settled
    rw [die.explodeFrom_of_lt higher more low, die.explodeFrom_of_lt cap 0 low]
  | succ remaining ih =>
    by_cases high : threshold ≤ latest
    · obtain ⟨more, rfl⟩ := Nat.exists_eq_add_one_of_ne_zero (Nat.ne_zero_of_lt fewer)
      simp only [explodeFrom, high, if_true, Draw.run_bind, Draw.run_map, Draw.run_note]
        at settled ⊢
      rw [ih (Nat.le_of_succ_le_succ fewer) _ _ (by simpa [Settled] using settled)]
    · have low := Nat.not_le.mp high
      rw [die.explodeFrom_of_lt higher more low, die.explodeFrom_of_lt cap _ low]

theorem run_explode_of_settled (raised : cap ≤ higher) (position : Nat)
    (settled : Settled threshold ((die.explode threshold cap).run source position).value) :
    (die.explode threshold higher).run source position =
      (die.explode threshold cap).run source position := by
  simp only [explode, Draw.run_bind, Draw.run_map] at settled ⊢
  rw [run_explodeFrom_of_settled raised _ _ settled]

theorem value_explodeFrom_eq_take {remaining more : Nat} (fewer : remaining ≤ more)
    (latest position : Nat) :
    ((die.explodeFrom threshold cap remaining latest).run source position).value =
      ((die.explodeFrom threshold higher more latest).run source position).value.take
        remaining := by
  induction remaining generalizing more latest position with
  | zero => by_cases high : threshold ≤ latest <;> simp [explodeFrom, high]
  | succ remaining ih =>
    by_cases high : threshold ≤ latest
    · obtain ⟨more, rfl⟩ := Nat.exists_eq_add_one_of_ne_zero (Nat.ne_zero_of_lt fewer)
      simp only [explodeFrom, high, if_true, Draw.run_bind, Draw.run_map, Draw.run_note,
        List.take_succ_cons]
      rw [ih (Nat.le_of_succ_le_succ fewer)]
    · have low := Nat.not_le.mp high
      simp [die.explodeFrom_of_lt _ _ low]

theorem value_roll_eq_take {first second : Limits}
    (raised : first.extraPerDie ≤ second.extraPerDie) (mode : Mode) (position : Nat) :
    ((die.roll mode threshold first).run source position).value =
      ((die.roll mode threshold second).run source position).value.take
        (first.extraPerDie + 1) := by
  by_cases single : mode = .explode
  · simp only [roll, single, if_true, explode, Draw.run_bind, Draw.run_map, List.take_succ_cons]
    rw [value_explodeFrom_eq_take raised]
  · simp [roll, single, List.singleton]

theorem run_explodeRounds_of_settled {dice remaining more : Nat} (raised : cap ≤ higher)
    (fewer : remaining ≤ more) (round total position : Nat) :
    let drawn := (die.explodeRounds threshold dice cap remaining round total).run source position
    let chains := (cutChains threshold cap drawn.value).1
    (∀ chain ∈ chains, Settled threshold chain) →
      (chains.length = remaining →
        total + Resolution.sum drawn.value < threshold * (dice + (round + chains.length))) →
      (die.explodeRounds threshold dice higher more round total).run source position = drawn := by
  induction remaining generalizing more round total position with
  | zero =>
    have nothing := (die.run_explodeRounds_zero threshold dice cap source round total position).1
    intro drawn chains ended missed
    have low : total < threshold * (dice + round) := by
      simpa [drawn, chains, nothing, cutChains, cutFrom] using missed
    simp only [drawn, die.explodeRounds_of_lt _ _ low]
  | succ remaining ih =>
    intro drawn chains ended missed
    by_cases high : threshold * (dice + round) ≤ total
    · obtain ⟨more, rfl⟩ := Nat.exists_eq_add_one_of_ne_zero (Nat.ne_zero_of_lt fewer)
      have closed := (die.chain_explode threshold cap source position).1
      simp only [drawn, chains, explodeRounds, high, if_true, Draw.run_bind, Draw.run_map,
        Draw.run_note, cutChains_append closed, List.forall_mem_cons, List.length_cons,
        List.sum_append] at ended missed ⊢
      rw [run_explode_of_settled raised position ended.1,
        ih (Nat.le_of_succ_le_succ fewer) _ _ _ ended.2]
      intro full
      have last := missed (congrArg (· + 1) full)
      rw [Nat.add_assoc, Nat.add_assoc round, Nat.add_comm 1]
      exact last
    · have low := Nat.not_le.mp high
      simp only [drawn, die.explodeRounds_of_lt _ _ low]

end Die

namespace Spec

def chains (limits : Limits) (spec : Spec) (rolls : List Nat) : List (List Nat) :=
  match spec.mode with
  | .explode => (cutChains spec.threshold limits.extraPerDie rolls).1
  | .explodeAll => (cutChains spec.threshold limits.extraPerDie (rolls.drop spec.dice)).1
  | _ => []

structure Settled (limits : Limits) (spec : Spec) (rolls : List Nat) : Prop where
  ended : ∀ chain ∈ spec.chains limits rolls, DiceNotation.Settled spec.threshold chain
  missed : spec.mode = .explodeAll → (spec.chains limits rolls).length = limits.rounds →
    Resolution.sum rolls < spec.threshold * (spec.dice + (spec.chains limits rolls).length)

variable {first second : Limits} {spec : Spec}

theorem rounds_rollDice (limits : Limits) (total : spec.mode = .explodeAll) (source : WordSource)
    (position : Nat) :
    let dice := (Draw.replicate spec.dice spec.die.sample).run source position
    let drawn := (spec.rollDice limits).run source position
    ∃ count,
      let added :=
        (Draw.replicate count (spec.die.explode spec.threshold limits.extraPerDie)).run source
          dice.position
      drawn.value = dice.value ++ added.value.flatten ∧ drawn.position = added.position ∧
        spec.chains limits (dice.value ++ added.value.flatten) = added.value ∧
        (∀ chain ∈ added.value, Chain spec.threshold limits.extraPerDie chain) ∧
        Rounds spec.threshold spec.dice limits.rounds 0 (Resolution.sum dice.value)
          added.value := by
  have length := Draw.length_replicate spec.dice spec.die.sample source position
  rw [rollDice_of_explodeAll limits total, Draw.run_bind]
  generalize (Draw.replicate spec.dice spec.die.sample).run source position = dice at *
  obtain ⟨count, rounds, closed, -, values, reached⟩ := spec.die.rounds_explodeTotal
    spec.threshold spec.dice limits dice.value source dice.position
  refine ⟨count, values, reached, ?_, closed, rounds⟩
  simp only [Spec.chains, total, List.drop_left' length, cutChains_flatten closed]

theorem flatten_chains_rollDice (limits : Limits) (spec : Spec) (source : WordSource)
    (position : Nat) :
    let rolls := ((spec.rollDice limits).run source position).value
    ∃ front : List Nat, rolls = front ++ (spec.chains limits rolls).flatten ∧
      (∀ chain ∈ spec.chains limits rolls, Chain spec.threshold limits.extraPerDie chain) ∧
      (spec.mode = .explode → front = [] ∧ (spec.chains limits rolls).length = spec.dice) ∧
      (spec.mode ≠ .explode → front.length = spec.dice) := by
  by_cases single : spec.mode = .explode
  · obtain ⟨chains, rolls, count, each⟩ := chains_rollDice limits single source position
    have cut : spec.chains limits chains.flatten = chains := by
      simp only [Spec.chains, single, cutChains_flatten each]
    dsimp only
    rw [rolls, cut]
    exact ⟨[], rfl, each, fun _ => ⟨rfl, count⟩, fun other => absurd single other⟩
  · by_cases total : spec.mode = .explodeAll
    · obtain ⟨count, values, -, cut, closed, -⟩ := rounds_rollDice limits total source position
      dsimp only
      rw [values, cut]
      exact ⟨_, rfl, closed, fun other => absurd other single, fun _ => Draw.length_replicate ..⟩
    · rw [rollDice_of_plain limits single total]
      have unchained (rolls : List Nat) : spec.chains limits rolls = [] := by
        cases mode : spec.mode <;> simp_all [Spec.chains]
      simp only [unchained, List.flatten_nil, List.append_nil]
      exact ⟨_, rfl, by simp, fun other => absurd other single, fun _ => Draw.length_replicate ..⟩

theorem run_rollDice_of_settled (raised : first.extraPerDie ≤ second.extraPerDie)
    (longer : first.rounds ≤ second.rounds) (source : WordSource) (position : Nat)
    (settled : spec.Settled first ((spec.rollDice first).run source position).value) :
    (spec.rollDice second).run source position = (spec.rollDice first).run source position := by
  by_cases single : spec.mode = .explode
  · have closed := Draw.forall_mem_replicate (Chain spec.threshold first.extraPerDie)
      (fun position => (spec.die.chain_explode _ _ source position).1) spec.dice position
    have ended := settled.ended
    rw [rollDice_of_explode first single] at ended ⊢
    rw [rollDice_of_explode second single]
    simp only [chains, single, Draw.run_map, cutChains_flatten closed] at ended ⊢
    rw [Draw.run_replicate_congr _ (Die.run_explode_of_settled raised) _ _ ended]
  · by_cases total : spec.mode = .explodeAll
    · have count := Draw.length_replicate spec.dice spec.die.sample source position
      have ended := settled.ended
      have missed := settled.missed total
      rw [rollDice_of_explodeAll first total] at ended missed ⊢
      rw [rollDice_of_explodeAll second total]
      simp only [chains, total, Draw.run_bind, Die.explodeTotal, Draw.run_map] at ended missed ⊢
      generalize (Draw.replicate spec.dice spec.die.sample).run source position = samples at *
      rw [List.drop_left' count] at ended missed
      simp only [List.sum_append] at missed
      rw [Die.run_explodeRounds_of_settled raised longer 0 _ _ ended]
      simpa only [Nat.zero_add] using missed
    · rw [rollDice_of_plain first single total, rollDice_of_plain second single total]

end Spec

theorem limits_only_truncate {first second : Limits}
    (raised : first.extraPerDie ≤ second.extraPerDie) (source : WordSource) :
    (∀ (spec : Spec) (position : Nat), spec.validate = .ok () → first.rounds ≤ second.rounds →
      let drawn := (spec.roll first).run source position
      ∃ outcome front, drawn.value = .ok outcome ∧
        outcome.rolls = front ++ (spec.chains first outcome.rolls).flatten ∧
        (spec.Settled first outcome.rolls → (spec.roll second).run source position = drawn)) ∧
    ∀ (die : Die) (mode : Mode) (threshold position : Nat),
      ((die.roll mode threshold first).run source position).value =
        ((die.roll mode threshold second).run source position).value.take
          (first.extraPerDie + 1) := by
  constructor
  · intro spec position valid longer
    obtain ⟨front, rolls, -⟩ := Spec.flatten_chains_rollDice first spec source position
    rw [Spec.run_roll_of_ok valid, Spec.run_roll_of_ok valid]
    refine ⟨_, front, rfl, rolls, ?_⟩
    intro settled
    rw [Spec.run_rollDice_of_settled raised longer source position settled]
  · intro die mode threshold position
    exact Die.value_roll_eq_take raised mode position

theorem chain_that_fills_its_limit_is_settled :
    let spec : Spec := ⟨"2x6.3", 2, .explode, 6, false, 3, .plus, 0⟩
    let source : WordSource := fun position => if position % 2 = 0 then 4294967295 else 0
    let drawn := (spec.roll ⟨1, 0⟩).run source 0
    spec.validate = .ok () ∧ drawn.value = .ok ⟨[6, 1, 6, 1], 14⟩ ∧
      (spec.roll {}).run source 0 = drawn := by
  intro spec source drawn
  have valid : spec.validate = .ok () := by decide
  have rolled : drawn.value = .ok ⟨[6, 1, 6, 1], 14⟩ := by decide +kernel
  have chains : spec.chains ⟨1, 0⟩ [6, 1, 6, 1] = [[6, 1], [6, 1]] := by rfl
  have raised : 1 ≤ 1000 := by decide
  obtain ⟨outcome, -, found, -, same⟩ :=
    (@limits_only_truncate ⟨1, 0⟩ {} raised source).1 spec 0 valid (Nat.zero_le _)
  obtain rfl : outcome = ⟨[6, 1, 6, 1], 14⟩ := Except.ok.inj (found.symm.trans rolled)
  have settled : spec.Settled ⟨1, 0⟩ [6, 1, 6, 1] :=
    ⟨by rw [chains]; decide, by intro total; contradiction⟩
  exact ⟨valid, rolled, same settled⟩

end DiceNotation
