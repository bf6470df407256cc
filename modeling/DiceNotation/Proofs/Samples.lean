import DiceNotation.Explosion

set_option autoImplicit false

namespace DiceNotation

namespace Draw

theorem below_lt {size : Nat} (positive : 0 < size) (source : WordSource) (position : Nat) :
    ((below size).run source position).value < size := by
  have high : (source position).toNat * size + size ≤ UInt32.size * size := by
    rw [← Nat.succ_mul]
    exact Nat.mul_le_mul_right size (source position).toNat_lt
  rw [run_below]
  dsimp only
  split
  · exact Nat.div_lt_of_lt_mul (by omega)
  · have carry := mul_div_lt positive (source (position + 1))
    exact Nat.div_lt_of_lt_mul (by omega)

theorem position_below (size : Nat) (source : WordSource) (position : Nat) :
    position + 1 ≤ ((below size).run source position).position ∧
      ((below size).run source position).position ≤ position + 2 := by
  rw [run_below]
  dsimp only
  split <;> simp

-- At both ends of the range the first word settles the sample.
theorem run_below_of_first {size position : Nat} {source : WordSource} (fits : size ≤ UInt32.size)
    (first : source position = 0) :
    (below size).run source position = ⟨0, position + 1, []⟩ := by
  simp [run_below, first, fits]

theorem run_below_of_last {size position : Nat} {source : WordSource} (positive : 0 < size)
    (fits : size ≤ UInt32.size) (last : source position = 4294967295) :
    (below size).run source position = ⟨size - 1, position + 1, []⟩ := by
  have words : UInt32.size = 4294967296 := rfl
  have word : (4294967295 : UInt32).toNat = 4294967295 := rfl
  rw [words] at fits
  have settled : 4294967295 * size % 4294967296 + size ≤ 4294967296 := by omega
  have value : 4294967295 * size / 4294967296 = size - 1 := by omega
  simp only [run_below, last, word, words, settled, if_true, value]

variable {α : Type}

theorem run_replicate_of_each {value : α} {draw : Draw α} {source : WordSource}
    (each : ∀ position, draw.run source position = ⟨value, position + 1, []⟩)
    (count position : Nat) :
    (replicate count draw).run source position =
      ⟨List.replicate count value, position + count, []⟩ := by
  induction count generalizing position with
  | zero => rfl
  | succ count ih =>
    simp [replicate, each, ih, List.replicate_succ, Nat.add_comm, Nat.add_left_comm]

theorem run_replicate_add (first second : Nat) (draw : Draw α) (source : WordSource)
    (position : Nat) :
    (replicate (first + second) draw).run source position =
      let front := (replicate first draw).run source position
      let back := (replicate second draw).run source front.position
      ⟨front.value ++ back.value, back.position, front.events ++ back.events⟩ := by
  induction first generalizing position with
  | zero => simp [replicate]
  | succ first ih =>
    have shift : first + 1 + second = first + second + 1 := by omega
    simp [shift, replicate, ih]

theorem forall_mem_replicate (holds : α → Prop) {draw : Draw α} {source : WordSource}
    (each : ∀ position, holds (draw.run source position).value) (count position : Nat) :
    ∀ value ∈ ((replicate count draw).run source position).value, holds value := by
  induction count generalizing position with
  | zero => simp [replicate]
  | succ count ih =>
    simp only [replicate, run_bind, run_map, List.mem_cons]
    rintro value (rfl | member)
    · exact each position
    · exact ih _ value member

theorem run_replicate_congr (holds : α → Prop) {first second : Draw α} {source : WordSource}
    (same : ∀ position, holds (first.run source position).value →
      second.run source position = first.run source position) (count position : Nat)
    (each : ∀ value ∈ ((replicate count first).run source position).value, holds value) :
    (replicate count second).run source position =
      (replicate count first).run source position := by
  induction count generalizing position with
  | zero => rfl
  | succ count ih =>
    simp only [replicate, run_bind, run_map, List.forall_mem_cons] at each ⊢
    rw [same position each.1, ih _ each.2]

theorem flatten_replicate_singleton (count : Nat) (draw : Draw α) :
    List.flatten <$> replicate count (List.singleton <$> draw) = replicate count draw := by
  induction count with
  | zero => rfl
  | succ count ih =>
    simp only [replicate, ← ih]
    ext
    simp [List.singleton]

end Draw

namespace Die

def Drew (die : Die) (source : WordSource) (position : Nat) (rolls : List Nat) (after : Nat) :
    Prop :=
  let samples := (Draw.replicate rolls.length die.sample).run source position
  samples.value = rolls ∧ samples.position = after

variable {die : Die} {source : WordSource} {position middle after : Nat} {rolls more : List Nat}

theorem drew_nil : die.Drew source position [] position :=
  ⟨rfl, rfl⟩

theorem drew_sample :
    die.Drew source position [(die.sample.run source position).value]
      (die.sample.run source position).position := by
  simp [Drew, Draw.replicate]

theorem drew_replicate_sample (die : Die) (count : Nat) (source : WordSource) (position : Nat) :
    let samples := (Draw.replicate count die.sample).run source position
    die.Drew source position samples.value samples.position := by
  simp only [Drew, Draw.length_replicate, and_self]

theorem Drew.append (first : die.Drew source position rolls middle)
    (second : die.Drew source middle more after) :
    die.Drew source position (rolls ++ more) after := by
  obtain ⟨values, reached⟩ := first
  rw [Drew, List.length_append, Draw.run_replicate_add]
  dsimp only
  rw [values, reached]
  exact ⟨congrArg (rolls ++ ·) second.1, second.2⟩

theorem sample_mem (die : Die) (source : WordSource) (position : Nat) :
    die.min ≤ (die.sample.run source position).value ∧
      (die.sample.run source position).value ≤ die.max := by
  have below := Draw.below_lt die.size_pos source position
  have range := die.min_le_max
  simp only [sample, Draw.run_map]
  simp only [size] at below ⊢
  omega

theorem Drew.mem (drew : die.Drew source position rolls after) :
    ∀ roll ∈ rolls, die.min ≤ roll ∧ roll ≤ die.max := by
  intro roll member
  rw [← drew.1] at member
  exact Draw.forall_mem_replicate (fun roll => die.min ≤ roll ∧ roll ≤ die.max)
    (die.sample_mem source) _ _ roll member

theorem max_le (facesFit : die.faces ≤ largestNumber) : die.max ≤ largestNumber := by
  have low : die.min ≤ 1 := by
    rw [min]
    split <;> decide
  exact Nat.max_le.mpr ⟨facesFit, Nat.le_trans low (by decide)⟩

theorem size_le (facesFit : die.faces ≤ largestNumber) : die.size ≤ UInt32.size :=
  Nat.succ_le_succ (Nat.le_trans (Nat.sub_le ..) (max_le facesFit))

theorem run_sample_of_first (facesFit : die.faces ≤ largestNumber) (first : source position = 0) :
    die.sample.run source position = ⟨die.min, position + 1, []⟩ := by
  rw [sample, Draw.run_map, Draw.run_below_of_first (size_le facesFit) first]
  rfl

theorem run_sample_of_last (facesFit : die.faces ≤ largestNumber)
    (last : source position = 4294967295) :
    die.sample.run source position = ⟨die.max, position + 1, []⟩ := by
  have range : die.min + (die.size - 1) = die.max := Nat.add_sub_cancel' die.min_le_max
  rw [sample, Draw.run_map, Draw.run_below_of_last die.size_pos (size_le facesFit) last]
  simp only [range]

theorem Drew.le_largestNumber (drew : die.Drew source position rolls after)
    (facesFit : die.faces ≤ largestNumber) : ∀ roll ∈ rolls, roll ≤ largestNumber :=
  fun roll member => Nat.le_trans (drew.mem roll member).2 (max_le facesFit)

theorem position_sample (die : Die) (source : WordSource) (position : Nat) :
    position + 1 ≤ (die.sample.run source position).position ∧
      (die.sample.run source position).position ≤ position + 2 := by
  simpa only [sample, Draw.run_map] using Draw.position_below die.size source position

theorem position_replicate_sample (die : Die) (count : Nat) (source : WordSource)
    (position : Nat) :
    let samples := (Draw.replicate count die.sample).run source position
    position + count ≤ samples.position ∧ samples.position ≤ position + 2 * count := by
  induction count generalizing position with
  | zero => simp [Draw.replicate]
  | succ count ih =>
    have first := die.position_sample source position
    have rest := ih (die.sample.run source position).position
    simp only [Draw.replicate, Draw.run_bind, Draw.run_map] at rest ⊢
    omega

theorem Drew.words (drew : die.Drew source position rolls after) :
    position + rolls.length ≤ after ∧ after ≤ position + 2 * rolls.length := by
  rw [← drew.2]
  exact position_replicate_sample die rolls.length source position

theorem drew_replicate_flatten {draw : Draw (List Nat)}
    (each : ∀ position, die.Drew source position (draw.run source position).value
      (draw.run source position).position) (count position : Nat) :
    die.Drew source position ((Draw.replicate count draw).run source position).value.flatten
      ((Draw.replicate count draw).run source position).position := by
  induction count generalizing position with
  | zero => exact drew_nil
  | succ count ih =>
    simp only [Draw.replicate, Draw.run_bind, Draw.run_map, List.flatten_cons]
    exact (each position).append (ih _)

end Die

end DiceNotation
