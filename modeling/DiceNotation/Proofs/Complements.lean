import DiceNotation.Proofs.Dominance
import DiceNotation.Proofs.Suffixes
import DiceNotation.Proofs.Totals

set_option autoImplicit false

namespace DiceNotation

namespace Resolution

theorem highest_add_lowest (rolls : List Nat) (count : Nat) :
    highest rolls count + lowest rolls (rolls.length - count) = sum rolls := by
  let rising := rolls.mergeSort (· ≤ ·)
  let others := rolls.length - count
  calc highest rolls count + lowest rolls others
    _ = sum (rising.take others) + sum (rising.drop others) := by
      rw [highest_eq_sum_drop, lowest, Nat.add_comm]
    _ = sum rising := List.sum_take_add_sum_drop rising others
    _ = sum rolls := (List.mergeSort_perm ..).sum_eq

theorem atOrAbove_add_atOrBelow (rolls : List Nat) (threshold : Nat) :
    atOrAbove rolls (threshold + 1) + atOrBelow rolls threshold = rolls.length := by
  have above (roll : Nat) : decide (threshold + 1 ≤ roll) = decide ¬ decide (roll ≤ threshold) := by
    rw [decide_eq_decide, decide_eq_true_eq]
    exact Nat.not_le.symm
  simp only [atOrAbove, atOrBelow, above]
  rw [Nat.add_comm, ← List.length_eq_countP_add_countP]

end Resolution

open Reading

structure Spec.Rollable (spec : Spec) (code : String) : Prop where
  read : parse code = .ok spec
  valid : spec.validate = .ok ()

section Code

def thresholdText : Option Nat → List Char
  | none => []
  | some threshold => '.' :: Decimal.digits threshold

def diceReading (dice : Nat) (mode : Mode) (faces : List Char) (threshold : Option Nat) : Reading :=
  ⟨Decimal.digits dice, mode.letter, faces ++ thresholdText threshold⟩

def diceCode (dice : Nat) (mode : Mode) (faces : List Char) (threshold : Option Nat) : String :=
  String.ofList (diceReading dice mode faces threshold).text

def diceSpec (dice : Nat) (mode : Mode) (faces : List Char) (threshold : Option Nat) : Spec :=
  { code := diceCode dice mode faces threshold
    dice := dice
    mode := mode
    faces := Decimal.value faces
    zeroBased := faces.head? = some '0'
    threshold := threshold.getD (mode.defaultThreshold (Decimal.value faces))
    sign := .plus
    modifier := 0 }

variable {dice : Nat} {mode : Mode} {faces : List Char} {threshold : Option Nat} {spec : Spec}

theorem thresholdText_unsigned (threshold : Option Nat) :
    ∀ c ∈ thresholdText threshold, isSign c = false := by
  cases threshold with
  | none => simp [thresholdText]
  | some threshold =>
    rw [thresholdText, List.forall_mem_cons]
    exact ⟨rfl, fun c member => isSign_eq_false_of_isDigit (Decimal.isDigit_of_mem_digits member)⟩

theorem head?_thresholdText (threshold : Option Nat) :
    ∀ c ∈ (thresholdText threshold).head?, c.isDigit = false := by
  cases threshold <;> simp [thresholdText]

theorem dottedRun_thresholdText (threshold : Option Nat) :
    dottedRun (thresholdText threshold) = threshold.elim [] Decimal.digits := by
  cases threshold with
  | none => rfl
  | some threshold => exact List.takeWhile_eq_self_iff.mpr fun _ => Decimal.isDigit_of_mem_digits

theorem cuts_diceReading (dice : Nat) (mode : Mode) (faces : List Char)
    (threshold : Option Nat) :
    (diceReading dice mode faces threshold).Cuts (diceCode dice mode faces threshold) :=
  ⟨String.toList_ofList, fun _ => Decimal.isDigit_of_mem_digits, mode.isAlpha_letter⟩

theorem clauses_diceReading (digits : ∀ c ∈ faces, c.isDigit = true) :
    let reading := diceReading dice mode faces threshold
    reading.faces = faces ∧ reading.threshold = threshold.elim [] Decimal.digits ∧
      reading.fromSign = [] ∧ reading.modifier = [] := by
  intro reading
  have boundary := head?_thresholdText threshold
  have unsigned : ∀ c ∈ reading.tail, isSign c = false := by
    intro c member
    cases List.mem_append.mp member with
    | inl face => exact isSign_eq_false_of_isDigit (digits c face)
    | inr behind => exact thresholdText_unsigned threshold c behind
  have unmodified : reading.fromSign = [] := fromSign_eq_nil unsigned
  refine ⟨takeWhile_run digits boundary, ?_, unmodified, ?_⟩
  · rw [Reading.threshold, ← dottedRun_thresholdText]
    exact congrArg dottedRun (dropWhile_run digits boundary)
  · rw [Reading.modifier, unmodified]
    rfl

theorem spec_diceReading (digits : ∀ c ∈ faces, c.isDigit = true) :
    (diceReading dice mode faces threshold).spec (diceCode dice mode faces threshold) mode =
      diceSpec dice mode faces threshold := by
  obtain ⟨face, given, unmodified, modifier⟩ :=
    @clauses_diceReading dice mode faces threshold digits
  have counted : (diceReading dice mode faces threshold).count = Decimal.digits dice := rfl
  rw [Reading.spec_eq _ rfl, face, given, unmodified, modifier, counted]
  have none_given : Decimal.value [] = 0 := rfl
  cases threshold <;> simp [diceSpec, Decimal.digits_ne_nil, none_given]

theorem parse_diceCode_iff (digits : ∀ c ∈ faces, c.isDigit = true) :
    Spec.parse (diceCode dice mode faces threshold) = .ok spec ↔
      spec = diceSpec dice mode faces threshold ∧ dice ≤ largestNumber ∧
        Decimal.value faces ≤ largestNumber ∧ threshold.getD 0 ≤ largestNumber := by
  obtain ⟨face, given, -, modifier⟩ := @clauses_diceReading dice mode faces threshold digits
  have cuts := cuts_diceReading dice mode faces threshold
  have counted : (diceReading dice mode faces threshold).count = Decimal.digits dice := rfl
  have valued : Decimal.value (threshold.elim [] Decimal.digits) = threshold.getD 0 := by
    cases threshold with
    | none => rfl
    | some number => exact Decimal.value_digits number
  have fit : (∀ literal ∈ (diceReading dice mode faces threshold).literals,
      Decimal.value literal ≤ largestNumber) ↔
        dice ≤ largestNumber ∧ Decimal.value faces ≤ largestNumber ∧
          threshold.getD 0 ≤ largestNumber := by
    have unmodified : Decimal.value [] ≤ largestNumber := Nat.zero_le _
    simp [Reading.literals, counted, face, given, modifier, valued, unmodified]
  rw [← fit, ← spec_diceReading digits]
  constructor
  · intro read
    obtain ⟨other, known, otherCuts, letter, fits, rfl⟩ := Spec.exists_cuts_of_parse read
    obtain rfl := cuts.unique otherCuts
    obtain rfl : known = mode := by
      have same : some known = some mode := by
        rw [← Mode.ofLetter?_letter known, ← letter]
        exact Mode.ofLetter?_letter mode
      exact Option.some.inj same
    exact ⟨rfl, fits⟩
  · rintro ⟨rfl, fits⟩
    exact Spec.parse_of_reading cuts.whole cuts.digits rfl fits

theorem validate_diceSpec_iff (digits : ∀ c ∈ faces, c.isDigit = true) :
    let spec := diceSpec dice mode faces threshold
    spec.validate = .ok () ↔
      dice < 100 ∧ faces ≠ [] ∧ 1 ≤ spec.faces ∧ 1 ≤ spec.threshold ∧ 1 ≤ dice ∧
        (spec.zeroBased = true ∨
          2 ≤ spec.faces ∧ (mode = .keepHighest ∨ mode = .keepLowest ∨ 2 ≤ spec.threshold)) := by
  intro spec
  have cuts : (diceReading dice mode faces threshold).Cuts spec.code :=
    cuts_diceReading dice mode faces threshold
  rw [cuts.validate_eq_ok_iff, (clauses_diceReading digits).1, ← Decimal.length_digits_le_two_iff]
  rfl

theorem rollable_diceCode_iff (digits : ∀ c ∈ faces, c.isDigit = true) :
    spec.Rollable (diceCode dice mode faces threshold) ↔
      spec = diceSpec dice mode faces threshold ∧ dice < 100 ∧ faces ≠ [] ∧
        Decimal.value faces ≤ largestNumber ∧ threshold.getD 0 ≤ largestNumber ∧
        1 ≤ spec.faces ∧ 1 ≤ spec.threshold ∧ 1 ≤ dice ∧
        (spec.zeroBased = true ∨
          2 ≤ spec.faces ∧ (mode = .keepHighest ∨ mode = .keepLowest ∨ 2 ≤ spec.threshold)) := by
  have few : dice < 100 → dice ≤ largestNumber := fun short => Nat.le_trans short.le (by decide)
  constructor
  · rintro ⟨read, valid⟩
    obtain ⟨rfl, -, facesFit, thresholdFits⟩ := (parse_diceCode_iff digits).mp read
    obtain ⟨short, faced, rules⟩ := (validate_diceSpec_iff digits).mp valid
    exact ⟨rfl, short, faced, facesFit, thresholdFits, rules⟩
  · rintro ⟨rfl, short, faced, facesFit, thresholdFits, rules⟩
    exact ⟨(parse_diceCode_iff digits).mpr ⟨rfl, few short, facesFit, thresholdFits⟩,
      (validate_diceSpec_iff digits).mpr ⟨short, faced, rules⟩⟩

def diceSamples (dice : Nat) (faces : List Char) : Draw (List Nat) :=
  Draw.replicate dice (Die.sample ⟨Decimal.value faces, faces.head? = some '0'⟩)

theorem value_roll_diceCode (digits : ∀ c ∈ faces, c.isDigit = true)
    (rollable : spec.Rollable (diceCode dice mode faces threshold)) (single : mode ≠ .explode)
    (total : mode ≠ .explodeAll) (limits : Limits) (source : WordSource) (position : Nat) :
    let rolls := ((diceSamples dice faces).run source position).value
    ((spec.roll limits).run source position).value =
      .ok ⟨rolls, mode.resolve spec.threshold rolls⟩ := by
  obtain ⟨rfl, -⟩ := (rollable_diceCode_iff digits).mp rollable
  have plain : (diceSpec dice mode faces threshold).rollDice limits = diceSamples dice faces :=
    Spec.rollDice_of_plain limits single total
  rw [Spec.run_roll_of_ok rollable.valid, plain]
  simp [Spec.outcomeOf, diceSpec, Sign.apply]

theorem rollable_keep_of_sum {whole : Spec} {kept : Nat} (digits : ∀ c ∈ faces, c.isDigit = true)
    (keeps : mode = .keepHighest ∨ mode = .keepLowest) (some_kept : 1 ≤ kept) (part : kept ≤ dice)
    (rollable : whole.Rollable (diceCode dice .sum faces none)) :
    (diceSpec dice mode faces (some kept)).Rollable (diceCode dice mode faces (some kept)) := by
  obtain ⟨rfl, short, faced, facesFit, -, some_face, -, some_die, enough⟩ :=
    (rollable_diceCode_iff digits).mp rollable
  have fits : kept ≤ largestNumber :=
    Nat.le_trans (Nat.le_of_lt (Nat.lt_of_le_of_lt part short)) (by decide)
  exact (rollable_diceCode_iff digits).mpr ⟨rfl, short, faced, facesFit, fits, some_face, some_kept,
    some_die, enough.imp_right fun two => ⟨two.1, keeps.imp_right .inl⟩⟩

theorem rollable_countMin_of_countMax {below : Spec} {bound : Nat}
    (digits : ∀ c ∈ faces, c.isDigit = true) (fits : bound < largestNumber)
    (rollable : below.Rollable (diceCode dice .countMax faces (some bound))) :
    (diceSpec dice .countMin faces (some (bound + 1))).Rollable
      (diceCode dice .countMin faces (some (bound + 1))) := by
  obtain ⟨rfl, short, faced, facesFit, -, some_face, -, some_die, enough⟩ :=
    (rollable_diceCode_iff digits).mp rollable
  refine (rollable_diceCode_iff digits).mpr ⟨rfl, short, faced, facesFit, fits, some_face,
    Nat.succ_pos bound, some_die, enough.imp_right fun two => ⟨two.1, .inr (.inr ?_)⟩⟩
  have two_below : 2 ≤ bound := by simpa [diceSpec] using two.2
  exact Nat.le_succ_of_le two_below

end Code

theorem complementary_modes_add_up :
    (∀ (rolls : List Nat) (count : Nat),
      Resolution.highest rolls count + Resolution.lowest rolls (rolls.length - count) =
        Resolution.sum rolls) ∧
    (∀ rolls : List Nat, (∀ roll ∈ rolls, roll ≤ largestNumber) →
      rolls.length ≤ Int32.maxValue.toInt → Resolution.sum rolls ≤ Int64.maxValue.toInt) ∧
    (∀ (rolls : List Nat) (bound : Nat),
      Resolution.atOrAbove rolls (bound + 1) + Resolution.atOrBelow rolls bound =
        rolls.length) ∧
    (∀ (dice kept : Nat) (faces : List Char) (whole : Spec), (∀ c ∈ faces, c.isDigit = true) →
      1 ≤ kept → kept < dice → whole.Rollable (diceCode dice .sum faces none) →
      ∃ high low : Spec, high.Rollable (diceCode dice .keepHighest faces (some kept)) ∧
        low.Rollable (diceCode dice .keepLowest faces (some (dice - kept))) ∧
        ∀ (limits : Limits) (source : WordSource) (position : Nat), ∃ all front back : Outcome,
          ((whole.roll limits).run source position).value = .ok all ∧
          ((high.roll limits).run source position).value = .ok front ∧
          ((low.roll limits).run source position).value = .ok back ∧
          front.total + back.total = all.total) ∧
    ∀ (dice bound : Nat) (faces : List Char) (below : Spec), (∀ c ∈ faces, c.isDigit = true) →
      bound < largestNumber → below.Rollable (diceCode dice .countMax faces (some bound)) →
      ∃ above : Spec, above.Rollable (diceCode dice .countMin faces (some (bound + 1))) ∧
        ∀ (limits : Limits) (source : WordSource) (position : Nat), ∃ low high : Outcome,
          ((below.roll limits).run source position).value = .ok low ∧
          ((above.roll limits).run source position).value = .ok high ∧
          low.total + high.total = dice := by
  refine ⟨Resolution.highest_add_lowest, ?_, Resolution.atOrAbove_add_atOrBelow, ?_, ?_⟩
  · intro rolls each few
    have small : Resolution.sum rolls ≤ rolls.length * largestNumber :=
      List.sum_le_card_nsmul rolls largestNumber each
    exact (Sign.plus.apply_fits few small (Nat.zero_le _)).1
  · intro dice kept faces whole digits some_kept some_left rollable
    have high := rollable_keep_of_sum digits (.inl rfl) some_kept (Nat.le_of_lt some_left) rollable
    have low := rollable_keep_of_sum digits (.inr rfl) (Nat.sub_pos_of_lt some_left)
      (Nat.sub_le dice kept) rollable
    refine ⟨_, _, high, low, fun limits source position => ?_⟩
    refine ⟨_, _, _, value_roll_diceCode digits rollable (by simp) (by simp) limits source position,
      value_roll_diceCode digits high (by simp) (by simp) limits source position,
      value_roll_diceCode digits low (by simp) (by simp) limits source position, ?_⟩
    have count : ((diceSamples dice faces).run source position).value.length = dice :=
      Draw.length_replicate ..
    have shared :=
      Resolution.highest_add_lowest ((diceSamples dice faces).run source position).value kept
    rw [count] at shared
    exact congrArg Int.ofNat shared
  · intro dice bound faces below digits fits rollable
    have above := rollable_countMin_of_countMax digits fits rollable
    refine ⟨_, above, fun limits source position => ?_⟩
    refine ⟨_, _, value_roll_diceCode digits rollable (by simp) (by simp) limits source position,
      value_roll_diceCode digits above (by simp) (by simp) limits source position, ?_⟩
    have count : ((diceSamples dice faces).run source position).value.length = dice :=
      Draw.length_replicate ..
    obtain ⟨rfl, -⟩ := (rollable_diceCode_iff digits).mp rollable
    have shared := Resolution.atOrAbove_add_atOrBelow
      ((diceSamples dice faces).run source position).value bound
    rw [count, Nat.add_comm] at shared
    exact congrArg Int.ofNat shared

theorem four_dice_are_three_highest_and_lowest :
    ∃ whole high low : Spec,
      whole.Rollable "4d6" ∧ high.Rollable "4k6.3" ∧ low.Rollable "4K6.1" ∧
        ∀ (limits : Limits) (source : WordSource) (position : Nat), ∃ all front back : Outcome,
          ((whole.roll limits).run source position).value = .ok all ∧
          ((high.roll limits).run source position).value = .ok front ∧
          ((low.roll limits).run source position).value = .ok back ∧
          front.total + back.total = all.total := by
  have whole : (diceSpec 4 .sum ['6'] none).Rollable (diceCode 4 .sum ['6'] none) :=
    ⟨by rfl, by decide⟩
  obtain ⟨-, -, -, shared, -⟩ := complementary_modes_add_up
  obtain ⟨high, low, front, back, totals⟩ :=
    shared 4 3 ['6'] _ (by simp) (by decide) (by decide) whole
  exact ⟨_, high, low, whole, front, back, totals⟩

end DiceNotation
