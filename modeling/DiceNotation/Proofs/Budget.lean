import DiceNotation.Proofs.Explosions

set_option autoImplicit false

namespace DiceNotation.Die

section Rounds

variable (die : Die) (threshold dice cap : Nat) (source : WordSource)

-- The events are not the same: they tell the number of the round.
theorem run_explodeRounds_shift (before remaining round total position : Nat) :
    let restarted :=
      (die.explodeRounds threshold (dice + before) cap remaining round total).run source position
    let drawn :=
      (die.explodeRounds threshold dice cap remaining (before + round) total).run source position
    restarted.value = drawn.value ∧ restarted.position = drawn.position := by
  induction remaining generalizing round total position with
  | zero =>
    simp only [run_explodeRounds_zero, and_self]
  | succ remaining ih =>
    by_cases high : threshold * (dice + (before + round)) ≤ total
    · have target : threshold * (dice + before + round) ≤ total := by rwa [Nat.add_assoc]
      simp only [explodeRounds, high, target, if_true, Draw.run_bind, Draw.run_map, Draw.run_note,
        Nat.add_assoc before, ih, and_self]
    · have low := Nat.not_le.mp high
      have target : total < threshold * (dice + before + round) := by rwa [Nat.add_assoc]
      simp only [explodeRounds_of_lt die _ _ low, explodeRounds_of_lt die _ _ target, and_self]

theorem run_explodeRounds_add (first second round total position : Nat) :
    let whole :=
      (die.explodeRounds threshold dice cap (first + second) round total).run source position
    let front := (die.explodeRounds threshold dice cap first round total).run source position
    let back :=
      (die.explodeRounds threshold dice cap second (round + first)
        (total + Resolution.sum front.value)).run source front.position
    whole.value = front.value ++ back.value ∧ whole.position = back.position := by
  induction first generalizing round total position with
  | zero =>
    obtain ⟨nothing, stayed⟩ :=
      run_explodeRounds_zero die threshold dice cap source round total position
    dsimp only
    rw [nothing, stayed, Nat.zero_add]
    exact ⟨rfl, rfl⟩
  | succ first ih =>
    rw [Nat.succ_add]
    by_cases high : threshold * (dice + round) ≤ total
    · let chain := (die.explode threshold cap).run source position
      obtain ⟨values, reached⟩ :=
        ih (round + 1) (total + Resolution.sum chain.value) chain.position
      have shift : round + 1 + first = round + (first + 1) := by omega
      simp only [chain, shift] at values reached
      simp only [explodeRounds, high, if_true, Draw.run_bind, Draw.run_map, Draw.run_note,
        Resolution.sum, List.sum_append, ← Nat.add_assoc total] at values reached ⊢
      simp only [values, reached, List.append_assoc, and_self]
    · -- The target only rises, so the second part adds nothing either.
      have low := Nat.not_le.mp high
      have later : total < threshold * (dice + (round + (first + 1))) :=
        Nat.lt_of_lt_of_le low (Nat.mul_le_mul_left threshold (by omega))
      simp [explodeRounds_of_lt die _ _ low, explodeRounds_of_lt die _ _ later]

end Rounds

-- The target counts dice and rounds alike, so to the second part the rounds before it are dice.
theorem explodeTotal_in_two_parts (die : Die) (threshold dice cap first second : Nat)
    (rolls : List Nat) (source : WordSource) (position : Nat) :
    let whole :=
      (die.explodeTotal threshold dice ⟨cap, first + second⟩ rolls).run source position
    let front := (die.explodeTotal threshold dice ⟨cap, first⟩ rolls).run source position
    let back :=
      (die.explodeTotal threshold (dice + first) ⟨cap, second⟩ front.value).run source
        front.position
    whole.value = back.value ∧ whole.position = back.position ∧ front.value <+: whole.value := by
  intro whole front back
  let added :=
    (die.explodeRounds threshold dice cap first 0 (Resolution.sum rolls)).run source position
  obtain ⟨values, reached⟩ := run_explodeRounds_add die threshold dice cap source first second 0
    (Resolution.sum rolls) position
  obtain ⟨later, last⟩ := run_explodeRounds_shift die threshold dice cap source first second 0
    (Resolution.sum (rolls ++ added.value)) added.position
  simp only [added, Resolution.sum, List.sum_append, Nat.add_zero,
    Nat.zero_add] at values reached later last
  simp only [whole, front, back, explodeTotal, Draw.run_map, Resolution.sum, List.sum_append, values,
    reached, later, last, List.append_assoc, true_and]
  rw [← List.append_assoc]
  exact List.prefix_append ..

end DiceNotation.Die
