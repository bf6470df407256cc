import DiceNotation.Proofs.Keeping
import Mathlib.Data.List.Forall2
import Mathlib.Data.List.Sort

set_option autoImplicit false

namespace DiceNotation

namespace Resolution

theorem mergeSort_descending (rolls : List Nat) :
    rolls.mergeSort (· ≥ ·) = (rolls.mergeSort (· ≤ ·)).reverse := by
  have falling := List.pairwise_mergeSort' (· ≥ ·) rolls
  have rising := List.pairwise_mergeSort' (· ≤ ·) rolls
  have reordered : (rolls.mergeSort (· ≥ ·)).Perm (rolls.mergeSort (· ≤ ·)).reverse :=
    (List.mergeSort_perm rolls _).trans
      ((List.mergeSort_perm rolls _).symm.trans (List.reverse_perm _).symm)
  exact reordered.eq_of_pairwise' falling (List.pairwise_reverse.mpr rising)

theorem highest_eq_sum_drop (rolls : List Nat) (count : Nat) :
    highest rolls count = sum ((rolls.mergeSort (· ≤ ·)).drop (rolls.length - count)) := by
  rw [highest, mergeSort_descending, List.take_reverse, List.length_mergeSort]
  exact (List.reverse_perm _).sum_eq

theorem mergeSort_eq_of_perm {first second : List Nat} (reordered : first.Perm second) :
    first.mergeSort (· ≤ ·) = second.mergeSort (· ≤ ·) := by
  have same : (first.mergeSort (· ≤ ·)).Perm (second.mergeSort (· ≤ ·)) :=
    (List.mergeSort_perm first _).trans (reordered.trans (List.mergeSort_perm second _).symm)
  exact same.eq_of_pairwise' (List.pairwise_mergeSort' (· ≤ ·) first)
    (List.pairwise_mergeSort' (· ≤ ·) second)

section Pointwise

variable {first second : List Nat}

theorem orderedInsert_of_first {low : Nat} {rolls : List Nat} (first : ∀ roll ∈ rolls, low ≤ roll) :
    rolls.orderedInsert (· ≤ ·) low = low :: rolls := by
  cases rolls with
  | nil => rfl
  | cons roll rest => exact List.orderedInsert_cons_of_le _ _ (first roll (by simp))

theorem forall₂_orderedInsert {low high : Nat} (raised : low ≤ high)
    (firstSorted : first.Pairwise (· ≤ ·)) (secondSorted : second.Pairwise (· ≤ ·))
    (pointwise : List.Forall₂ (· ≤ ·) first second) :
    List.Forall₂ (· ≤ ·) (first.orderedInsert (· ≤ ·) low)
      (second.orderedInsert (· ≤ ·) high) := by
  induction pointwise generalizing low high with
  | nil => simpa using raised
  | @cons a b rest others below pointwise ih =>
    obtain ⟨beforeRest, restSorted⟩ := List.pairwise_cons.mp firstSorted
    obtain ⟨beforeOthers, othersSorted⟩ := List.pairwise_cons.mp secondSorted
    have later {low high : Nat} (raised : low ≤ high) := ih raised restSorted othersSorted
    -- Where only one of the two goes in front, the other head is put in again behind it.
    by_cases front : low ≤ a <;> by_cases ahead : high ≤ b
    · simp [front, ahead, raised, below, pointwise]
    · have again := orderedInsert_of_first beforeRest
      have shifted := later (Nat.le_trans below (Nat.le_of_not_le ahead))
      rw [again] at shifted
      simpa [front, ahead] using ⟨Nat.le_trans front below, shifted⟩
    · have again := orderedInsert_of_first beforeOthers
      have shifted := later (Nat.le_trans raised ahead)
      rw [again] at shifted
      simpa [front, ahead] using ⟨Nat.le_trans (Nat.le_of_not_le front) raised, shifted⟩
    · simp [front, ahead, below, later raised]

theorem forall₂_mergeSort (pointwise : List.Forall₂ (· ≤ ·) first second) :
    List.Forall₂ (· ≤ ·) (first.mergeSort (· ≤ ·)) (second.mergeSort (· ≤ ·)) := by
  rw [List.mergeSort_eq_insertionSort, List.mergeSort_eq_insertionSort]
  induction pointwise with
  | nil => exact .nil
  | cons raised _ ih =>
    exact forall₂_orderedInsert raised (List.pairwise_insertionSort ..)
      (List.pairwise_insertionSort ..) ih

theorem lowest_le_of_forall₂ (pointwise : List.Forall₂ (· ≤ ·) first second) (count : Nat) :
    lowest first count ≤ lowest second count :=
  (List.forall₂_take count (forall₂_mergeSort pointwise)).sum_le_sum

theorem highest_le_of_forall₂ (pointwise : List.Forall₂ (· ≤ ·) first second) (count : Nat) :
    highest first count ≤ highest second count := by
  rw [highest_eq_sum_drop, highest_eq_sum_drop, pointwise.length_eq]
  exact (List.forall₂_drop _ (forall₂_mergeSort pointwise)).sum_le_sum

theorem countP_le_of_forall₂ {test : Nat → Bool}
    (kept : List.Forall₂ (fun roll other => test roll = true → test other = true) first second) :
    first.countP test ≤ second.countP test := by
  induction kept with
  | nil => exact Nat.le_refl _
  | @cons roll other _ _ passes _ ih =>
    rw [List.countP_cons, List.countP_cons]
    by_cases met : test roll
    · simpa [met, passes met] using ih
    · simpa [met] using Nat.le_add_right_of_le ih

theorem atOrAbove_le_of_forall₂ (pointwise : List.Forall₂ (· ≤ ·) first second)
    (threshold : Nat) : atOrAbove first threshold ≤ atOrAbove second threshold := by
  refine countP_le_of_forall₂ (pointwise.imp fun roll other raised => ?_)
  simpa using fun met => Nat.le_trans met raised

theorem atOrBelow_le_of_forall₂ (pointwise : List.Forall₂ (· ≤ ·) first second)
    (threshold : Nat) : atOrBelow second threshold ≤ atOrBelow first threshold := by
  have lowered : List.Forall₂ (· ≥ ·) second first := pointwise.flip
  refine countP_le_of_forall₂ (lowered.imp fun roll other raised => ?_)
  simpa using Nat.le_trans raised

end Pointwise

end Resolution

namespace Mode

variable {first second : List Nat}

theorem resolve_eq_of_perm (mode : Mode) (threshold : Nat) (reordered : first.Perm second) :
    mode.resolve threshold first = mode.resolve threshold second := by
  have sorted := Resolution.mergeSort_eq_of_perm reordered
  cases mode with
  | sum | explode | explodeAll => exact reordered.sum_eq
  | keepHighest =>
    simp only [resolve, Resolution.highest_eq_sum_drop, sorted, reordered.length_eq]
  | keepLowest => simp only [resolve, Resolution.lowest, sorted]
  | countMin | countMax => exact reordered.countP_eq _

theorem resolve_le_of_forall₂ {mode : Mode} (upward : mode ≠ .countMax) (threshold : Nat)
    (pointwise : List.Forall₂ (· ≤ ·) first second) :
    mode.resolve threshold first ≤ mode.resolve threshold second := by
  cases mode with
  | sum | explode | explodeAll => exact pointwise.sum_le_sum
  | keepHighest => exact Resolution.highest_le_of_forall₂ pointwise threshold
  | keepLowest => exact Resolution.lowest_le_of_forall₂ pointwise threshold
  | countMin => exact Resolution.atOrAbove_le_of_forall₂ pointwise threshold
  | countMax => contradiction

theorem better_rolls_are_worth_no_less (mode : Mode) (threshold : Nat) :
    (∀ rolls better : List Nat,
      (∃ reordered : List Nat, reordered.Perm rolls ∧ List.Forall₂ (· ≤ ·) reordered better) →
        if mode = .countMax then mode.resolve threshold better ≤ mode.resolve threshold rolls
        else mode.resolve threshold rolls ≤ mode.resolve threshold better) ∧
    ∀ rolls reordered : List Nat, reordered.Perm rolls →
      mode.resolve threshold reordered = mode.resolve threshold rolls := by
  refine ⟨?_, fun rolls reordered same => mode.resolve_eq_of_perm threshold same⟩
  rintro rolls better ⟨reordered, same, pointwise⟩
  rw [← mode.resolve_eq_of_perm threshold same]
  split_ifs with downward
  · subst downward
    exact Resolution.atOrBelow_le_of_forall₂ pointwise threshold
  · exact resolve_le_of_forall₂ downward threshold pointwise

end Mode

end DiceNotation
