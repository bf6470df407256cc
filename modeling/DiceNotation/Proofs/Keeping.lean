import DiceNotation.Resolution
import Mathlib.Algebra.Order.BigOperators.Group.List
import Mathlib.Algebra.Order.Ring.Nat
import Mathlib.Data.List.Sublists

set_option autoImplicit false

namespace DiceNotation.Resolution

-- A choice is one of places, so equal rolls can be kept for each other.
def choices (rolls : List Nat) (count : Nat) : List Nat :=
  (rolls.sublistsLen (min count rolls.length)).map sum

theorem mem_choices_iff {rolls : List Nat} {count total : Nat} :
    total ∈ choices rolls count ↔
      ∃ kept : List Nat, kept.Sublist rolls ∧ kept.length = min count rolls.length ∧
        sum kept = total := by
  simp only [choices, List.mem_map, List.mem_sublistsLen, and_assoc]

theorem forall₂_take_of_sublist {order : Nat → Nat → Prop} (reflexive : ∀ roll, order roll roll)
    {rolls kept : List Nat} (sorted : rolls.Pairwise order) (part : kept.Sublist rolls) :
    List.Forall₂ order (rolls.take kept.length) kept := by
  induction rolls generalizing kept with
  | nil => simp [List.sublist_nil.mp part]
  | cons roll rest ih =>
    obtain ⟨before, later⟩ := List.pairwise_cons.mp sorted
    cases kept with
    | nil => simp
    | cons first others =>
      -- What is kept behind the first lies in the rest, wherever the first was taken from.
      have others_rest : others.Sublist rest := part.tail
      refine .cons ?_ (ih later others_rest)
      obtain rfl | member := List.mem_cons.mp (part.subset (List.mem_cons_self ..))
      · exact reflexive _
      · exact before first member

section Sorted

variable (order : Nat → Nat → Bool) {rolls kept : List Nat} {count : Nat}

theorem sum_take_mergeSort_mem_choices (rolls : List Nat) (count : Nat) :
    sum ((rolls.mergeSort order).take count) ∈ choices rolls count := by
  have subperm : ((rolls.mergeSort order).take count).Subperm rolls :=
    (List.take_sublist ..).subperm.trans (List.mergeSort_perm rolls order).subperm
  obtain ⟨kept, reordered, part⟩ := subperm
  refine mem_choices_iff.mpr ⟨kept, part, ?_, reordered.sum_eq⟩
  rw [reordered.length_eq, List.length_take, List.length_mergeSort]

theorem forall₂_take_mergeSort (transitive : ∀ a b c, order a b → order b c → order a c)
    (total : ∀ a b, (order a b || order b a) = true) (part : kept.Sublist rolls)
    (length : kept.length = min count rolls.length) :
    ∃ other, sum other = sum kept ∧
      List.Forall₂ (order · ·) ((rolls.mergeSort order).take count) other := by
  have sorted := List.pairwise_mergeSort transitive total rolls
  have reflexive (roll : Nat) : order roll roll = true := by simpa using total roll roll
  have subperm : kept.Subperm (rolls.mergeSort order) :=
    part.subperm.trans (List.mergeSort_perm rolls order).symm.subperm
  obtain ⟨other, reordered, otherPart⟩ := subperm
  have front : (rolls.mergeSort order).take count = (rolls.mergeSort order).take other.length := by
    rw [reordered.length_eq, length, List.take_eq_take_min, List.length_mergeSort]
  refine ⟨other, reordered.sum_eq, ?_⟩
  rw [front]
  exact forall₂_take_of_sublist reflexive sorted otherPart

end Sorted

theorem keeping_is_optimal (rolls : List Nat) (count : Nat) :
    highest rolls count ∈ choices rolls count ∧
      (∀ total ∈ choices rolls count, total ≤ highest rolls count) ∧
      lowest rolls count ∈ choices rolls count ∧
      (∀ total ∈ choices rolls count, lowest rolls count ≤ total) ∧
      ∀ total ∈ choices rolls count, total ≤ sum rolls := by
  refine ⟨sum_take_mergeSort_mem_choices .., ?_, sum_take_mergeSort_mem_choices .., ?_, ?_⟩
  · intro total member
    obtain ⟨kept, part, length, rfl⟩ := mem_choices_iff.mp member
    obtain ⟨other, same, above⟩ := forall₂_take_mergeSort (· ≥ ·) (by simp; omega)
      (by simp; omega) part length
    rw [← same]
    have pointwise : List.Forall₂ (· ≤ ·) other ((rolls.mergeSort (· ≥ ·)).take count) := by
      simpa using above.flip
    exact pointwise.sum_le_sum
  · intro total member
    obtain ⟨kept, part, length, rfl⟩ := mem_choices_iff.mp member
    obtain ⟨other, same, below⟩ := forall₂_take_mergeSort (· ≤ ·) (by simp; omega)
      (by simp; omega) part length
    rw [← same]
    have pointwise : List.Forall₂ (· ≤ ·) ((rolls.mergeSort (· ≤ ·)).take count) other := by
      simpa using below
    exact pointwise.sum_le_sum
  · intro total member
    obtain ⟨kept, part, -, rfl⟩ := mem_choices_iff.mp member
    exact part.sum_le_sum fun roll _ => Nat.zero_le roll

example :
    choices [3, 6, 1] 2 = [7, 4, 9] ∧ highest [3, 6, 1] 2 = 9 ∧ lowest [3, 6, 1] 2 = 4 := by
  cbv

end DiceNotation.Resolution
