import DiceNotation.Proofs.Samples
import Mathlib.Data.Set.Card
import Mathlib.Order.Interval.Finset.Nat

set_option autoImplicit false

namespace DiceNotation

namespace Draw

def number (words : UInt32 × UInt32) : Nat :=
  words.1.toNat * UInt32.size + words.2.toNat

theorem number_injective : Function.Injective number := by
  intro first second same
  have size : UInt32.size = 4294967296 := rfl
  have low := first.2.toNat_lt
  have otherLow := second.2.toNat_lt
  simp only [number, size] at same
  apply Prod.ext
  next => exact UInt32.toNat_inj.mp (by omega)
  next => exact UInt32.toNat_inj.mp (by omega)

theorem exists_number {fraction : Nat} (fits : fraction < UInt64.size) :
    ∃ words, number words = fraction := by
  have size : UInt32.size = 4294967296 := rfl
  have long : UInt64.size = 18446744073709551616 := rfl
  refine ⟨(UInt32.ofNat (fraction / UInt32.size), UInt32.ofNat (fraction % UInt32.size)), ?_⟩
  have high : fraction / UInt32.size < UInt32.size := by
    rw [size]
    omega
  have low : fraction % UInt32.size < UInt32.size := Nat.mod_lt _ (by decide)
  rw [number, UInt32.toNat_ofNat_of_lt' high, UInt32.toNat_ofNat_of_lt' low, Nat.div_add_mod']

theorem value_below {size : Nat} (positive : 0 < size) (source : WordSource) (position : Nat) :
    ((below size).run source position).value =
      number (source position, source (position + 1)) * size / UInt64.size := by
  have words : UInt32.size = 4294967296 := rfl
  have long : UInt64.size = UInt32.size * UInt32.size := rfl
  have share (high low : Nat) : (high * UInt32.size + low) * size / UInt64.size =
      (high * size + low * size / UInt32.size) / UInt32.size := by
    rw [long, ← Nat.div_div_eq_div_mul, Nat.add_mul, Nat.mul_right_comm, Nat.add_comm,
      Nat.add_mul_div_right _ _ (by decide), Nat.add_comm]
  have extra := mul_div_lt positive (source (position + 1))
  rw [run_below, number, share]
  dsimp only
  generalize (source position).toNat * size = scaled
  generalize (source (position + 1)).toNat * size / UInt32.size = carry at extra
  by_cases settled : scaled % UInt32.size + size ≤ UInt32.size
  next =>
    -- The second word is not drawn here, and could not carry into the value.
    rw [if_pos settled]
    rw [words] at settled ⊢
    dsimp only
    omega
  next => rw [if_neg settled]

-- The least number of 64 bits whose share of `size` values has this index.
def leastNumber (size index : Nat) : Nat :=
  (index * UInt64.size + size - 1) / size

theorem mul_div_eq_iff {size : Nat} (positive : 0 < size) (fraction index : Nat) :
    fraction * size / UInt64.size = index ↔
      leastNumber size index ≤ fraction ∧ fraction < leastNumber size (index + 1) := by
  have least (index : Nat) : leastNumber size index ≤ fraction ↔
      index * UInt64.size ≤ fraction * size := by
    rw [leastNumber, Nat.div_le_iff_le_mul_add_pred positive, Nat.mul_comm size]
    omega
  rw [← Nat.not_le, least, least, Nat.div_eq_iff (by decide), Nat.add_mul]
  have long : 0 < UInt64.size := by decide
  omega

theorem leastNumber_le {size : Nat} (positive : 0 < size) {index : Nat} (inside : index ≤ size) :
    leastNumber size index ≤ UInt64.size := by
  rw [leastNumber, Nat.div_le_iff_le_mul_add_pred positive]
  have most := Nat.mul_le_mul_right UInt64.size inside
  omega

theorem leastNumber_succ_sub {size : Nat} (positive : 0 < size) (index : Nat) :
    UInt64.size / size ≤ leastNumber size (index + 1) - leastNumber size index ∧
      leastNumber size (index + 1) - leastNumber size index ≤ UInt64.size / size + 1 := by
  have shift : (index + 1) * UInt64.size + size - 1 =
      index * UInt64.size + size - 1 + UInt64.size := by
    rw [Nat.add_mul]
    omega
  rw [leastNumber, leastNumber, shift, Nat.add_div positive]
  generalize (index * UInt64.size + size - 1) / size = least
  generalize UInt64.size / size = part
  split <;> omega

end Draw

namespace Die

def wordsFor (die : Die) (value : Nat) : Set (UInt32 × UInt32) :=
  {words | ∀ (source : WordSource) (position : Nat), source position = words.1 →
    source (position + 1) = words.2 → (die.sample.run source position).value = value}

theorem value_sample (die : Die) (source : WordSource) (position : Nat) :
    (die.sample.run source position).value =
      die.min + Draw.number (source position, source (position + 1)) * die.size / UInt64.size := by
  rw [sample, Draw.run_map, ← Draw.value_below die.size_pos]

theorem mem_wordsFor_iff (die : Die) (index : Nat) (words : UInt32 × UInt32) :
    words ∈ die.wordsFor (die.min + index) ↔
      Draw.number words * die.size / UInt64.size = index := by
  simp only [wordsFor, Set.mem_ofPred_eq, value_sample, Nat.add_left_cancel_iff]
  constructor
  next =>
    intro always
    exact always (fun position => if position = 0 then words.1 else words.2) 0 rfl rfl
  next =>
    intro share source position first second
    rw [first, second]
    exact share

theorem ncard_wordsFor {die : Die} {index : Nat} (inside : index < die.size) :
    (die.wordsFor (die.min + index)).ncard =
      Draw.leastNumber die.size (index + 1) - Draw.leastNumber die.size index := by
  have share := Draw.mul_div_eq_iff die.size_pos
  -- The words for one value are a stretch of the numbers of 64 bits.
  have numbers : Draw.number '' die.wordsFor (die.min + index) =
      Finset.Ico (Draw.leastNumber die.size index) (Draw.leastNumber die.size (index + 1)) := by
    ext fraction
    rw [Finset.mem_coe, Finset.mem_Ico]
    constructor
    next =>
      rintro ⟨words, member, rfl⟩
      exact (share _ index).mp ((die.mem_wordsFor_iff index words).mp member)
    next =>
      intro between
      have most := Draw.leastNumber_le die.size_pos inside
      obtain ⟨words, rfl⟩ := Draw.exists_number (Nat.lt_of_lt_of_le between.2 most)
      exact ⟨words, (die.mem_wordsFor_iff index words).mpr ((share _ index).mpr between), rfl⟩
  rw [← Set.ncard_image_of_injective _ Draw.number_injective, numbers, Set.ncard_coe_finset,
    Nat.card_Ico]

theorem ncard_wordsFor_near {die : Die} {value : Nat} (low : die.min ≤ value)
    (high : value ≤ die.max) :
    UInt64.size / die.size ≤ (die.wordsFor value).ncard ∧
      (die.wordsFor value).ncard ≤ UInt64.size / die.size + 1 := by
  obtain ⟨index, rfl⟩ := Nat.exists_eq_add_of_le low
  have inside : index < die.size := by
    rw [size]
    omega
  rw [ncard_wordsFor inside]
  exact Draw.leastNumber_succ_sub die.size_pos index

theorem wordsFor_nonempty {die : Die} (facesFit : die.faces ≤ largestNumber) {value : Nat}
    (low : die.min ≤ value) (high : value ≤ die.max) : (die.wordsFor value).Nonempty := by
  have fits : die.size ≤ UInt64.size := Nat.le_trans (size_le facesFit) (by decide)
  have part : 0 < UInt64.size / die.size := Nat.div_pos fits die.size_pos
  apply Set.nonempty_of_ncard_ne_zero
  exact Nat.ne_of_gt (Nat.lt_of_lt_of_le part (ncard_wordsFor_near low high).1)

theorem faces_are_equally_likely {die : Die} (facesFit : die.faces ≤ largestNumber) :
    Draw.between? die.min die.max = some die.sample ∧
    (∀ (source : WordSource) (position : Nat),
      let drawn := die.sample.run source position
      (drawn.position = position + 1 ∨ drawn.position = position + 2) ∧
        drawn.value = die.min +
          Draw.number (source position, source (position + 1)) * die.size / UInt64.size ∧
        die.min ≤ drawn.value ∧ drawn.value ≤ die.max) ∧
    (∀ value, die.min ≤ value → value ≤ die.max → (die.wordsFor value).Nonempty) ∧
    ∀ first second, die.min ≤ first → first ≤ die.max → die.min ≤ second → second ≤ die.max →
      (die.wordsFor first).ncard ≤ (die.wordsFor second).ncard + 1 := by
  refine ⟨Draw.between?_of_fits die.min_le_max (size_le facesFit), ?_, ?_, ?_⟩
  next =>
    intro source position drawn
    have words : position + 1 ≤ drawn.position ∧ drawn.position ≤ position + 2 :=
      die.position_sample source position
    exact ⟨by omega, die.value_sample source position, die.sample_mem source position⟩
  next => exact fun value => wordsFor_nonempty facesFit
  next =>
    intro first second low high otherLow otherHigh
    have most := (ncard_wordsFor_near low high).2
    have least := (ncard_wordsFor_near otherLow otherHigh).1
    exact Nat.le_trans most (Nat.succ_le_succ least)

theorem carry_of_second_word_lifts_the_face :
    let die : Die := ⟨3, false⟩
    let source : WordSource := fun position => if position = 0 then 1431655765 else 1431655766
    die.faces ≤ largestNumber ∧ (die.sample.run source 0).value = 2 ∧ (die.wordsFor 3).Nonempty ∧
      (die.wordsFor 1).ncard ≤ (die.wordsFor 3).ncard + 1 := by
  intro die source
  have facesFit : die.faces ≤ largestNumber := by decide
  obtain ⟨-, drawn, reached, even⟩ := faces_are_equally_likely facesFit
  refine ⟨facesFit, ?_, reached 3 (by decide) (by decide),
    even 1 3 (by decide) (by decide) (by decide) (by decide)⟩
  rw [(drawn source 0).2.1]
  decide

end Die

end DiceNotation
