import DiceNotation.Proofs.Rolls
import DiceNotation.Spec
import Mathlib.Algebra.Order.BigOperators.Group.List
import Mathlib.Algebra.Order.Ring.Nat
import Mathlib.Data.List.Flatten

set_option autoImplicit false

namespace DiceNotation

namespace Rounds

variable {threshold dice remaining total : Nat} {added : List (List Nat)}

theorem eq_nil_iff (rounds : Rounds threshold dice remaining 0 total added) :
    added = [] ↔ total < threshold * dice ∨ remaining = 0 := by
  constructor
  · rintro rfl
    have missed := rounds.missed
    simp only [List.length_nil, List.flatten_nil, List.sum_nil, Nat.add_zero] at missed
    omega
  · intro closed
    have met := rounds.met 0
    have short := rounds.length_le
    simp only [List.take_zero, List.flatten_nil, List.sum_nil, Nat.add_zero] at met
    apply List.eq_nil_of_length_eq_zero
    omega

theorem sum_take_flatten_le (lists : List (List Nat)) (count : Nat) :
    Resolution.sum (lists.take count).flatten ≤ Resolution.sum lists.flatten := by
  have part : (lists.take count).flatten.Sublist lists.flatten :=
    (List.take_sublist count lists).flatten
  exact part.sum_le_sum fun value _ => Nat.zero_le value

theorem fits (rounds : Rounds threshold dice remaining 0 total added)
    (thresholdFits : threshold ≤ largestNumber) (diceFit : dice ≤ largestNumber)
    (small : total + Resolution.sum added.flatten ≤ largestNumber * largestNumber) :
    ∀ r ≤ added.length, total + Resolution.sum (added.take r).flatten < UInt64.size ∧
      threshold * (dice + r) < UInt64.size := by
  intro r inside
  have limit : largestNumber * largestNumber + largestNumber < UInt64.size := by decide
  have part (r : Nat) := sum_take_flatten_le added r
  refine ⟨by have := part r; omega, ?_⟩
  cases r with
  | zero =>
    have product := Nat.mul_le_mul thresholdFits diceFit
    rw [Nat.add_zero]
    omega
  | succ r =>
    -- The round before met its target, and this one asks for a single threshold more.
    have met := rounds.met r inside
    have before := part r
    rw [Nat.zero_add] at met
    rw [← Nat.add_assoc, Nat.mul_succ]
    omega

end Rounds

namespace Die

variable (die : Die) (threshold dice : Nat) (limits : Limits) (rolls : List Nat)
  (source : WordSource) (position : Nat)

theorem rounds_explodeTotal :
    let drawn := (die.explodeTotal threshold dice limits rolls).run source position
    ∃ count,
      let chains :=
        (Draw.replicate count (die.explode threshold limits.extraPerDie)).run source position
      Rounds threshold dice limits.rounds 0 (Resolution.sum rolls) chains.value ∧
        (∀ chain ∈ chains.value, Chain threshold limits.extraPerDie chain) ∧
        chains.value.length = count ∧
        drawn.value = rolls ++ chains.value.flatten ∧ drawn.position = chains.position := by
  obtain ⟨count, rounds, values, reached⟩ := die.rounds_explodeRounds threshold dice
    limits.extraPerDie source limits.rounds 0 (Resolution.sum rolls) position
  refine ⟨count, rounds, ?_, Draw.length_replicate .., ?_, reached⟩
  · exact Draw.forall_mem_replicate _
      (fun position => (die.chain_explode threshold limits.extraPerDie source position).1)
      count position
  · simp only [explodeTotal, Draw.run_map, values]

theorem sum_explodeTotal_le (rollsFit : ∀ roll ∈ rolls, roll ≤ largestNumber)
    (facesFit : die.faces ≤ largestNumber) :
    let drawn := (die.explodeTotal threshold dice limits rolls).run source position
    Resolution.sum drawn.value ≤ drawn.value.length * largestNumber := by
  obtain ⟨added, values, drew⟩ :=
    die.drew_explodeTotal threshold dice limits rolls source position
  dsimp only
  rw [values]
  apply List.sum_le_card_nsmul
  intro roll member
  cases List.mem_append.mp member with
  | inl old => exact rollsFit roll old
  | inr new => exact drew.le_largestNumber facesFit roll new

theorem explodeTotal_eq_self_iff :
    let drawn := (die.explodeTotal threshold dice limits rolls).run source position
    drawn.value = rolls ∧ drawn.position = position ↔
      Resolution.sum rolls < threshold * dice ∨ limits.rounds = 0 := by
  obtain ⟨count, rounds, each, length, values, reached⟩ :=
    die.rounds_explodeTotal threshold dice limits rolls source position
  dsimp only
  rw [values, reached, List.append_right_eq_self, ← rounds.eq_nil_iff]
  constructor
  · rintro ⟨empty, -⟩
    have enough := length_le_length_flatten fun chain member => (each chain member).nonempty
    rw [empty] at enough
    exact List.eq_nil_of_length_eq_zero (Nat.le_zero.mp enough)
  · intro empty
    rw [empty] at length ⊢
    subst length
    exact ⟨rfl, rfl⟩

end Die

theorem explodeTotal_adds_rounds (limits : Limits) (source : WordSource) :
    (∀ (die : Die) (threshold dice : Nat) (rolls : List Nat) (position : Nat),
      let drawn := (die.explodeTotal threshold dice limits rolls).run source position
      rolls <+: drawn.value ∧
      (drawn.value = rolls ∧ drawn.position = position ↔
        Resolution.sum rolls < threshold * dice ∨ limits.rounds = 0) ∧
      ∃ count ≤ limits.rounds,
        let chains :=
          (Draw.replicate count (die.roll .explode threshold limits)).run source position
        let before := fun r => Resolution.sum (rolls ++ (chains.value.take r).flatten)
        drawn.value = rolls ++ chains.value.flatten ∧ drawn.position = chains.position ∧
        (∀ chain ∈ chains.value, Chain threshold limits.extraPerDie chain) ∧
        (∀ r < count, threshold * (dice + r) ≤ before r) ∧
        (count < limits.rounds → Resolution.sum drawn.value < threshold * (dice + count)) ∧
        ((∀ roll ∈ rolls, roll ≤ largestNumber) → die.faces ≤ largestNumber →
          threshold ≤ largestNumber → dice ≤ largestNumber →
          drawn.value.length < UInt32.size →
          ∀ r ≤ count, before r < UInt64.size ∧ threshold * (dice + r) < UInt64.size)) ∧
    ∀ (spec : Spec) (position : Nat), spec.validate = .ok () → spec.mode = .explodeAll →
      let first := (Draw.replicate spec.dice spec.die.sample).run source position
      let raised :=
        (spec.die.explodeTotal spec.threshold spec.dice limits first.value).run source
          first.position
      let drawn := (spec.roll limits).run source position
      drawn.value = .ok
        ⟨raised.value, spec.sign.apply (Resolution.sum raised.value) spec.modifier⟩ ∧
      drawn.position = raised.position := by
  constructor
  · intro die threshold dice rolls position
    have explode : die.roll .explode threshold limits = die.explode threshold limits.extraPerDie :=
      if_pos rfl
    have small := die.sum_explodeTotal_le threshold dice limits rolls source position
    obtain ⟨count, rounds, each, length, values, reached⟩ :=
      die.rounds_explodeTotal threshold dice limits rolls source position
    have met := rounds.met
    have missed := rounds.missed
    have fits := rounds.fits
    simp only [length, Nat.zero_add, Resolution.sum, ← List.sum_append, ← values] at met missed fits
    refine ⟨⟨_, values.symm⟩, die.explodeTotal_eq_self_iff threshold dice limits rolls source
      position, count, length ▸ rounds.length_le, ?_⟩
    rw [explode]
    refine ⟨values, reached, each, met, missed, ?_⟩
    intro rollsFit facesFit thresholdFits diceFit few
    have length_le := Nat.mul_le_mul_right largestNumber (Nat.le_pred_of_lt few)
    exact fits thresholdFits diceFit (Nat.le_trans (small rollsFit facesFit) length_le)
  · intro spec position valid total
    rw [Spec.run_roll_of_ok valid, Spec.rollDice_of_explodeAll limits total]
    simp [Spec.outcomeOf, total, Mode.resolve]

end DiceNotation
