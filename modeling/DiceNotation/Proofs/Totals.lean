import DiceNotation.Proofs.Parse
import DiceNotation.Proofs.Rolls
import Mathlib.Algebra.Order.BigOperators.Group.List
import Mathlib.Algebra.Order.Ring.Nat

set_option autoImplicit false

namespace DiceNotation

namespace Resolution

variable {low high : Nat} {rolls : List Nat}

theorem sum_lt (some_roll : rolls ≠ []) (each : ∀ roll ∈ rolls, roll < high) :
    sum rolls < rolls.length * high := by
  simpa using List.sum_lt_sum_of_ne_nil some_roll id (fun _ => high) each

theorem mul_le_sum_iff (each : ∀ roll ∈ rolls, roll ≤ high) :
    rolls.length * high ≤ sum rolls ↔ ∀ roll ∈ rolls, roll = high := by
  induction rolls with
  | nil => simp
  | cons roll rest ih =>
    obtain ⟨here, later⟩ := List.forall_mem_cons.mp each
    have rest_le : sum rest ≤ rest.length * high := List.sum_le_card_nsmul rest high later
    have first : sum (roll :: rest) = roll + sum rest := List.sum_cons
    rw [List.forall_mem_cons, ← ih later, first, List.length_cons, Nat.succ_mul]
    omega

theorem sum_between (each : ∀ roll ∈ rolls, low ≤ roll ∧ roll ≤ high) :
    rolls.length * low ≤ sum rolls ∧ sum rolls ≤ rolls.length * high :=
  ⟨List.card_nsmul_le_sum rolls low fun roll member => (each roll member).1,
    List.sum_le_card_nsmul rolls high fun roll member => (each roll member).2⟩

theorem sum_take_mergeSort_between (each : ∀ roll ∈ rolls, low ≤ roll ∧ roll ≤ high)
    (order : Nat → Nat → Bool) (count : Nat) :
    min count rolls.length * low ≤ sum ((rolls.mergeSort order).take count) ∧
      sum ((rolls.mergeSort order).take count) ≤ min count rolls.length * high := by
  have kept : ∀ roll ∈ (rolls.mergeSort order).take count, low ≤ roll ∧ roll ≤ high := by
    intro roll member
    exact each roll (List.mem_mergeSort.mp (List.mem_of_mem_take member))
  simpa only [List.length_take, List.length_mergeSort] using sum_between kept

end Resolution

section Bound

variable {bound : Nat} {rolls : List Nat} (each : ∀ roll ∈ rolls, roll ≤ bound)
include each

theorem Resolution.sum_take_mergeSort_le (order : Nat → Nat → Bool) (count : Nat) :
    sum ((rolls.mergeSort order).take count) ≤ rolls.length * bound := by
  have between : ∀ roll ∈ rolls, 0 ≤ roll ∧ roll ≤ bound :=
    fun roll member => ⟨Nat.zero_le roll, each roll member⟩
  exact Nat.le_trans (sum_take_mergeSort_between between order count).2
    (Nat.mul_le_mul_right bound (Nat.min_le_right ..))

theorem Mode.resolve_le (positive : 1 ≤ bound) (mode : Mode) (threshold : Nat) :
    mode.resolve threshold rolls ≤ rolls.length * bound := by
  have counted (test : Nat → Bool) : rolls.countP test ≤ rolls.length * bound :=
    Nat.le_trans List.countP_le_length (Nat.le_mul_of_pos_right _ positive)
  cases mode with
  | sum => exact List.sum_le_card_nsmul rolls bound each
  | explode => exact List.sum_le_card_nsmul rolls bound each
  | explodeAll => exact List.sum_le_card_nsmul rolls bound each
  | keepHighest => exact Resolution.sum_take_mergeSort_le each _ threshold
  | keepLowest => exact Resolution.sum_take_mergeSort_le each _ threshold
  | countMin => exact counted _
  | countMax => exact counted _

end Bound

theorem Sign.apply_fits {value count modifier : Nat} (sign : Sign)
    (few : (count : Int) ≤ Int32.maxValue.toInt) (small : value ≤ count * largestNumber)
    (modifierFits : modifier ≤ largestNumber) :
    value ≤ Int64.maxValue.toInt ∧
      Int64.minValue.toInt ≤ sign.apply value modifier ∧
      sign.apply value modifier ≤ Int64.maxValue.toInt := by
  have top : Int64.maxValue.toInt = 9223372036854775807 := rfl
  have bottom : Int64.minValue.toInt = -9223372036854775808 := rfl
  have limit : Int32.maxValue.toInt = 2147483647 := rfl
  have number : largestNumber = 4294967295 := rfl
  rw [number] at small modifierFits
  rw [limit] at few
  rw [top, bottom]
  cases sign <;> simp only [Sign.apply] <;> omega

namespace Spec

variable {spec : Spec}

theorem total_rollDice_fits (limits : Limits) (bounded : spec.Bounded) (source : WordSource)
    (position : Nat) :
    let rolls := ((spec.rollDice limits).run source position).value
    rolls.length ≤ Int32.maxValue.toInt →
      spec.mode.resolve spec.threshold rolls ≤ Int64.maxValue.toInt ∧
        Int64.minValue.toInt ≤ (spec.outcomeOf rolls).total ∧
        (spec.outcomeOf rolls).total ≤ Int64.maxValue.toInt := by
  intro rolls few
  have drew := (drew_rollDice limits spec source position).1
  have small := Mode.resolve_le (drew.le_largestNumber bounded.faces_le) (by decide) spec.mode
    spec.threshold
  exact Sign.apply_fits spec.sign few small bounded.modifier_le

end Spec

end DiceNotation
