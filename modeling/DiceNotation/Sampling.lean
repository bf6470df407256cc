import DiceNotation.Draw

set_option autoImplicit false

namespace DiceNotation

namespace Draw

def below (size : Nat) : Draw Nat := do
  let high ← word
  let scaled := high.toNat * size
  -- The part that the second word adds is less than `size`, so here it cannot carry.
  if scaled % UInt32.size + size ≤ UInt32.size then
    return scaled / UInt32.size
  else
    let low ← word
    return (scaled + low.toNat * size / UInt32.size) / UInt32.size

theorem run_below (size : Nat) (source : WordSource) (position : Nat) :
    (below size).run source position =
      let scaled := (source position).toNat * size
      if scaled % UInt32.size + size ≤ UInt32.size then
        ⟨scaled / UInt32.size, position + 1, []⟩
      else
        let low := (source (position + 1)).toNat
        ⟨(scaled + low * size / UInt32.size) / UInt32.size, position + 2, []⟩ := by
  by_cases settled : (source position).toNat * size % UInt32.size + size ≤ UInt32.size <;>
    simp [below, settled]

theorem mul_div_lt {size : Nat} (positive : 0 < size) (word : UInt32) :
    word.toNat * size / UInt32.size < size :=
  Nat.div_lt_of_lt_mul (Nat.mul_lt_mul_of_pos_right word.toNat_lt positive)

theorem add_div_of_lt (scaled : Nat) {carry : Nat} (small : carry < UInt32.size) :
    (scaled + carry) / UInt32.size =
      scaled / UInt32.size + if UInt32.size ≤ scaled % UInt32.size + carry then 1 else 0 := by
  have words : UInt32.size = 4294967296 := rfl
  rw [words] at small ⊢
  split <;> omega

def between? (low high : Nat) : Option (Draw Nat) :=
  let size := high - low + 1
  if high < low then none
  else if size = UInt32.size then some ((low + ·.toNat) <$> word)
  else some do
    let first ← word
    let scaled := first.toNat * size
    -- A second word can only change the value where the first leaves this little room.
    if UInt32.size - size < scaled % UInt32.size then
      let second ← word
      let carries := UInt32.size ≤ scaled % UInt32.size + second.toNat * size / UInt32.size
      return low + (scaled / UInt32.size + if carries then 1 else 0)
    else
      return low + scaled / UInt32.size

theorem between?_of_fits {low high : Nat} (ordered : low ≤ high)
    (fits : high - low + 1 ≤ UInt32.size) :
    between? low high = some ((low + ·) <$> below (high - low + 1)) := by
  have positive : 0 < high - low + 1 := Nat.succ_pos _
  rw [between?, if_neg (Nat.not_lt.mpr ordered)]
  generalize high - low + 1 = size at fits positive
  by_cases full : size = UInt32.size
  next =>
    rw [if_pos full, full]
    apply congrArg some
    ext source position
    simp only [run_map, run_word, run_below, Nat.mul_mod_left, Nat.zero_add, Nat.le_refl, if_true,
      Nat.mul_div_cancel _ (full ▸ positive)]
  next =>
    rw [if_neg full]
    have carry (low : UInt32) : low.toNat * size / UInt32.size < UInt32.size :=
      Nat.lt_of_lt_of_le (mul_div_lt positive low) fits
    apply congrArg some
    ext source position
    simp only [run_bind, run_map, run_word, run_below, List.nil_append]
    by_cases more : UInt32.size - size < (source position).toNat * size % UInt32.size
    next =>
      have unsettled : ¬ (source position).toNat * size % UInt32.size + size ≤ UInt32.size := by
        omega
      simp only [more, unsettled, if_true, if_false, run_bind, run_word, run_pure,
        add_div_of_lt _ (carry (source (position + 1)))]
      rfl
    next =>
      have settled : (source position).toNat * size % UInt32.size + size ≤ UInt32.size := by omega
      simp only [more, settled, if_true, if_false, run_pure]

end Draw

def Die.sample (die : Die) : Draw Nat :=
  (die.min + ·) <$> Draw.below die.size

end DiceNotation
