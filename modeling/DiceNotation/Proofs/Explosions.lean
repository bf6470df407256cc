import DiceNotation.Proofs.Samples

set_option autoImplicit false

namespace DiceNotation

structure Chain (threshold cap : Nat) (chain : List Nat) : Prop where
  nonempty : chain ≠ []
  exploded : ∀ value ∈ chain.dropLast, threshold ≤ value
  length_le : chain.length ≤ cap + 1
  ended : chain.length ≤ cap → ∀ last ∈ chain.getLast?, last < threshold

variable {threshold cap : Nat}

theorem Chain.of_low {latest : Nat} (low : latest < threshold) : Chain threshold cap [latest] :=
  ⟨by simp, by simp, by simp, by simpa using fun _ => low⟩

theorem Chain.of_capped (threshold latest : Nat) : Chain threshold 0 [latest] :=
  ⟨by simp, by simp, by simp, by simp⟩

theorem Chain.cons {latest : Nat} {rest : List Nat} (high : threshold ≤ latest)
    (chain : Chain threshold cap rest) : Chain threshold (cap + 1) (latest :: rest) := by
  have some_rest := chain.nonempty
  refine ⟨by simp, ?_, by simpa using chain.length_le, ?_⟩
  · rw [List.dropLast_cons_of_ne_nil some_rest]
    simpa using ⟨high, chain.exploded⟩
  · intro short last member
    rw [List.getLast?_cons, List.getLast?_eq_some_getLast some_rest] at member
    exact chain.ended (by simpa using short) last
      (by simpa [List.getLast?_eq_some_getLast some_rest] using member)

namespace Die

theorem chain_explodeFrom (die : Die) (threshold cap : Nat) (source : WordSource)
    (remaining latest position : Nat) :
    let drawn := (die.explodeFrom threshold cap remaining latest).run source position
    Chain threshold remaining (latest :: drawn.value) ∧
      die.Drew source position drawn.value drawn.position := by
  induction remaining generalizing latest position with
  | zero =>
    by_cases high : threshold ≤ latest <;>
      simp [explodeFrom, high, Chain.of_capped, drew_nil]
  | succ remaining ih =>
    by_cases high : threshold ≤ latest
    · have first := @drew_sample die source position
      obtain ⟨chain, rest⟩ := ih (die.sample.run source position).value
        (die.sample.run source position).position
      simp only [explodeFrom, high, if_true, Draw.run_bind, Draw.run_map, Draw.run_note]
      exact ⟨chain.cons high, first.append rest⟩
    · simp [explodeFrom, high, Chain.of_low (Nat.not_le.mp high), drew_nil]

theorem chain_explode (die : Die) (threshold cap : Nat) (source : WordSource) (position : Nat) :
    let drawn := (die.explode threshold cap).run source position
    Chain threshold cap drawn.value ∧ die.Drew source position drawn.value drawn.position := by
  have first := @drew_sample die source position
  obtain ⟨chain, rest⟩ := die.chain_explodeFrom threshold cap source cap
    (die.sample.run source position).value (die.sample.run source position).position
  simp only [explode, Draw.run_bind, Draw.run_map]
  exact ⟨chain, first.append rest⟩

theorem run_explodeRounds_zero (die : Die) (threshold dice cap : Nat) (source : WordSource)
    (round total position : Nat) :
    let drawn := (die.explodeRounds threshold dice cap 0 round total).run source position
    drawn.value = [] ∧ drawn.position = position := by
  by_cases high : threshold * (dice + round) ≤ total <;> simp [explodeRounds, high]

end Die

-- For the rounds from `round` on, of which `remaining` are left.
structure Rounds (threshold dice remaining round total : Nat) (added : List (List Nat)) :
    Prop where
  length_le : added.length ≤ remaining
  met : ∀ r < added.length,
    threshold * (dice + (round + r)) ≤ total + Resolution.sum (added.take r).flatten
  missed : added.length < remaining →
    total + Resolution.sum added.flatten < threshold * (dice + (round + added.length))

section Rounds

variable {dice remaining round total : Nat}

theorem Rounds.of_low (low : total < threshold * (dice + round)) :
    Rounds threshold dice remaining round total [] :=
  ⟨by simp, by simp, by simpa using fun _ => low⟩

theorem Rounds.of_capped (threshold dice round total : Nat) :
    Rounds threshold dice 0 round total [] :=
  ⟨by simp, by simp, by simp⟩

theorem Rounds.cons {chain : List Nat} {added : List (List Nat)}
    (high : threshold * (dice + round) ≤ total)
    (rounds : Rounds threshold dice remaining (round + 1) (total + Resolution.sum chain) added) :
    Rounds threshold dice (remaining + 1) round total (chain :: added) := by
  have shift (r : Nat) : round + (r + 1) = round + 1 + r := by omega
  refine ⟨by simpa using rounds.length_le, ?_, ?_⟩
  · intro r inside
    cases r with
    | zero => simpa using high
    | succ r =>
      rw [shift, List.take_succ_cons, List.flatten_cons, Resolution.sum,
        List.sum_append, ← Nat.add_assoc total]
      exact rounds.met r (by simpa using inside)
  · intro short
    rw [List.length_cons, shift, List.flatten_cons, Resolution.sum, List.sum_append,
      ← Nat.add_assoc total]
    exact rounds.missed (by simpa using short)

theorem Die.rounds_explodeRounds (die : Die) (threshold dice cap : Nat) (source : WordSource)
    (remaining round total position : Nat) :
    let drawn :=
      (die.explodeRounds threshold dice cap remaining round total).run source position
    ∃ count,
      let chains := (Draw.replicate count (die.explode threshold cap)).run source position
      Rounds threshold dice remaining round total chains.value ∧
        drawn.value = chains.value.flatten ∧ drawn.position = chains.position := by
  induction remaining generalizing round total position with
  | zero =>
    exact ⟨0, Rounds.of_capped .., die.run_explodeRounds_zero ..⟩
  | succ remaining ih =>
    by_cases high : threshold * (dice + round) ≤ total
    · let first := (die.explode threshold cap).run source position
      obtain ⟨count, rounds, values, reached⟩ :=
        ih (round + 1) (total + Resolution.sum first.value) first.position
      refine ⟨count + 1, ?_⟩
      simp only [explodeRounds, high, if_true, Draw.replicate, Draw.run_bind, Draw.run_map,
        Draw.run_note, List.flatten_cons]
      exact ⟨rounds.cons high, congrArg (first.value ++ ·) values, reached⟩
    · refine ⟨0, Rounds.of_low (Nat.not_le.mp high), ?_⟩
      simp [explodeRounds, high, Draw.replicate]

end Rounds

end DiceNotation
